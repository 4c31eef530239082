import Mathlib.Data.List.Basic

set_option autoImplicit false

/-!
# Retrying

An attempt that fails in a way worth another one is followed by the next attempt, as
long as retries are left.
-/

namespace Retry

/-- The attempt a series ends with, if `again` tells which attempts call for another. -/
structure Stops (again : Nat → Prop) (retries last : Nat) : Prop where
  within : last ≤ retries
  repeated : ∀ attempt < last, again attempt
  final : last = retries ∨ ¬ again last

variable {again : Nat → Prop} {retries last : Nat}

theorem stops_here (final : retries = 0 ∨ ¬ again 0) : Stops again retries 0 where
  within := Nat.zero_le retries
  repeated := nofun
  final := final.imp_left Eq.symm

theorem Stops.after (first : again 0)
    (later : Stops (fun attempt => again (attempt + 1)) retries last) :
    Stops again (retries + 1) (last + 1) where
  within := Nat.succ_le_succ later.within
  repeated
    | 0, _ => first
    | attempt + 1, earlier => later.repeated attempt (Nat.lt_of_succ_lt_succ earlier)
  final := later.final.imp_left (congrArg Nat.succ)

theorem Stops.le {other : Nat} (stops : Stops again retries last)
    (elsewhere : Stops again retries other) : last ≤ other := by
  refine Nat.le_of_not_lt fun earlier => ?_
  rcases elsewhere.final with exhausted | settled
  · have := stops.within
    omega
  · exact settled (stops.repeated other earlier)

theorem Stops.unique {other : Nat} (stops : Stops again retries last)
    (elsewhere : Stops again retries other) : last = other :=
  Nat.le_antisymm (stops.le elsewhere) (elsewhere.le stops)

theorem Stops.exhausted_iff (stops : Stops again retries last) :
    last = retries ↔ ∀ attempt < retries, again attempt := by
  constructor
  · rintro rfl
    exact stops.repeated
  · intro all
    rcases stops.final with exhausted | settled
    · exact exhausted
    · exact Nat.le_antisymm stops.within
        (Nat.le_of_not_lt fun early => settled (all last early))

section Work

variable {Work Result Other : Type*}

/-- Work is done over only as long as nothing has been heard of it. -/
structure Decides (heard : Work → Prop) (relay : Work → Result) (failed : Result → Prop)
    (works : List Work) (result : Result) : Prop where
  last : ∀ index work, works[index]? = some work → heard work →
    index + 1 = works.length ∧ result = relay work
  unheard : (∀ work ∈ works, ¬ heard work) → failed result

variable {heard : Work → Prop} {relay : Work → Result} {failed : Result → Prop}
  {works earlier : List Work} {result : Result}

theorem Decides.silent (unheard : ∀ work ∈ works, ¬ heard work) (lost : failed result) :
    Decides heard relay failed works result where
  last _ work here there := absurd there (unheard work (List.mem_of_getElem? here))
  unheard _ := lost

theorem Decides.single {work : Work} (answered : heard work → result = relay work)
    (lost : ¬ heard work → failed result) : Decides heard relay failed [work] result where
  last index found here there := by
    obtain ⟨rfl, rfl⟩ : index = 0 ∧ found = work := by
      cases index with
      | zero => exact ⟨rfl, (Option.some.inj here).symm⟩
      | succ index => exact absurd here nofun
    exact ⟨rfl, answered there⟩
  unheard none' := lost (none' work List.mem_cons_self)

theorem Decides.append (unheard : ∀ work ∈ earlier, ¬ heard work)
    (decides : Decides heard relay failed works result) :
    Decides heard relay failed (earlier ++ works) result where
  last index work here there := by
    rw [List.getElem?_append] at here
    split at here
    next => exact absurd there (unheard work (List.mem_of_getElem? here))
    next beyond =>
      obtain ⟨position, decided⟩ := decides.last _ work here there
      rw [List.length_append]
      exact ⟨by omega, decided⟩
  unheard none' := decides.unheard fun work member =>
    none' work (List.mem_append_right earlier member)

theorem Decides.map {failed' : Other → Prop} (tell : Result → Other)
    (fails : ∀ result, failed result → failed' (tell result))
    (decides : Decides heard relay failed works result) :
    Decides heard (fun work => tell (relay work)) failed' works (tell result) where
  last index work here there :=
    (decides.last index work here there).imp_right (congrArg tell)
  unheard none' := fails result (decides.unheard none')

theorem Decides.label {Labelled : Type*} {heard' : Labelled → Prop} {relay' : Labelled → Result}
    (label : Work → Labelled) (same : ∀ work, heard' (label work) ↔ heard work)
    (tells : ∀ work, relay' (label work) = relay work)
    (decides : Decides heard relay failed works result) :
    Decides heard' relay' failed (works.map label) result where
  last index labelled here there := by
    rw [List.getElem?_map] at here
    obtain ⟨work, found, rfl⟩ := Option.map_eq_some_iff.mp here
    rw [List.length_map, tells]
    exact decides.last index work found ((same work).mp there)
  unheard none' := decides.unheard fun work member there =>
    none' (label work) (List.mem_map_of_mem member) ((same work).mpr there)

/-- What is heard of is relayed, and what is relayed is not tried again. -/
theorem Decides.unheard_of_again (decides : Decides heard relay failed works result)
    (retried : Result → Prop) (settled : ∀ work, heard work → ¬ retried (relay work))
    (again : retried result) : ∀ work ∈ works, ¬ heard work := by
  intro work member there
  obtain ⟨index, here⟩ := List.mem_iff_getElem?.mp member
  rw [(decides.last index work here there).2] at again
  exact settled work there again

theorem Decides.series {attempted : Nat → List Work} {results : Nat → Result}
    (retried : Result → Prop)
    (each : ∀ attempt, Decides heard relay failed (attempted attempt) (results attempt))
    (settled : ∀ work, heard work → ¬ retried (relay work)) {retries last : Nat}
    (stops : Stops (fun attempt => retried (results attempt)) retries last) :
    Decides heard relay failed ((List.range (last + 1)).flatMap attempted) (results last) := by
  rw [List.range_succ, List.flatMap_append, List.flatMap_singleton]
  refine (each last).append fun work member => ?_
  obtain ⟨attempt, before, here⟩ := List.mem_flatMap.mp member
  exact (each attempt).unheard_of_again retried settled
    (stops.repeated attempt (List.mem_range.mp before)) work here

end Work

end Retry
