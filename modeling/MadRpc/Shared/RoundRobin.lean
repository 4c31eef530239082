import Mathlib.Data.Int.Order.Basic
import Mathlib.Data.List.Count
import Mathlib.Data.List.Rotate
import MadRpc.Shared.Machine

set_option autoImplicit false

/-!
# Round robin over a ring of positions

A cursor points at a position of a ring and is advanced past every position that is
tried. Each selection may see a different set of available positions.
-/

namespace RoundRobin

def distance (size cursor position : Nat) : Nat :=
  -- Going forward, and wrapping at `size`.
  if cursor ≤ position then position - cursor else position + size - cursor

def scan (available : Nat → Bool) (size : Nat) : Nat → Nat → Nat × Option Nat
  | 0, cursor => (cursor, none)
  | remaining + 1, cursor =>
      if available (cursor % size) then ((cursor + 1) % size, some (cursor % size))
      else scan available size remaining ((cursor + 1) % size)

def select (available : Nat → Bool) (size cursor : Nat) : Nat × Option Nat :=
  scan available size size cursor

theorem distance_lt (size cursor position : Nat) (bounded : cursor < size)
    (within : position < size) : distance size cursor position < size := by
  unfold distance
  split <;> omega

theorem advance_eq (size position : Nat) (within : position < size) :
    (position + 1) % size = if position + 1 = size then 0 else position + 1 := by
  split
  next wraps => rw [wraps, Nat.mod_self]
  next inside => exact Nat.mod_eq_of_lt (by omega)

theorem distance_advance (size cursor position : Nat) (bounded : cursor < size)
    (within : position < size) (elsewhere : position ≠ cursor) :
    distance size cursor position = distance size ((cursor + 1) % size) position + 1 := by
  rw [advance_eq size cursor bounded]
  unfold distance
  split_ifs <;> omega

/-- What a selection chooses: the nearest available position, and the cursor behind it. -/
structure Selected (available : Nat → Bool) (size cursor next position : Nat) : Prop where
  within : position < size
  chosen : available position = true
  advanced : next = (position + 1) % size
  nearest : ∀ other, other < size → available other = true →
    distance size cursor position ≤ distance size cursor other

theorem scan_selected (available : Nat → Bool) (size remaining cursor next position : Nat)
    (bounded : cursor < size)
    (result : scan available size remaining cursor = (next, some position)) :
    Selected available size cursor next position := by
  induction remaining generalizing cursor with
  | zero => simp [scan] at result
  | succ remaining ih =>
      rw [scan, Nat.mod_eq_of_lt bounded] at result
      split at result
      next ready =>
        obtain ⟨rfl, rfl⟩ : (cursor + 1) % size = next ∧ cursor = position := by
          simpa using result
        refine ⟨bounded, ready, rfl, ?_⟩
        intro other _ _
        simp [distance]
      next busy =>
        have later := ih _ (Nat.mod_lt _ (by omega)) result
        refine ⟨later.within, later.chosen, later.advanced, ?_⟩
        intro other within ready
        -- The position just tried is unavailable, so both distances shrink by one.
        have here : ∀ candidate, available candidate = true → candidate ≠ cursor := by
          rintro candidate ready rfl
          exact busy ready
        rw [distance_advance size cursor position bounded later.within (here _ later.chosen),
          distance_advance size cursor other bounded within (here _ ready)]
        exact Nat.add_le_add_right (later.nearest other within ready) 1

theorem scan_exhausted (available : Nat → Bool) (size remaining cursor next other : Nat)
    (bounded : cursor < size) (result : scan available size remaining cursor = (next, none))
    (within : other < size) (ready : available other = true) :
    remaining ≤ distance size cursor other := by
  induction remaining generalizing cursor with
  | zero => exact Nat.zero_le _
  | succ remaining ih =>
      rw [scan, Nat.mod_eq_of_lt bounded] at result
      split at result
      next => simp at result
      next busy =>
        have elsewhere : other ≠ cursor := by
          rintro rfl
          exact busy ready
        rw [distance_advance size cursor other bounded within elsewhere]
        exact Nat.succ_le_succ (ih _ (Nat.mod_lt _ (by omega)) result)

theorem select_mod (available : Nat → Bool) (size cursor : Nat) (nonempty : 0 < size) :
    select available size (cursor % size) = select available size cursor := by
  obtain ⟨remaining, rfl⟩ := Nat.exists_eq_succ_of_ne_zero (Nat.pos_iff_ne_zero.mp nonempty)
  simp [select, scan]

theorem select_selected (available : Nat → Bool) (size cursor next position : Nat)
    (nonempty : 0 < size) (result : select available size cursor = (next, some position)) :
    Selected available size (cursor % size) next position := by
  rw [← select_mod available size cursor nonempty] at result
  exact scan_selected available size size _ next position (Nat.mod_lt _ nonempty) result

theorem select_succeeds (available : Nat → Bool) (size cursor other : Nat)
    (within : other < size) (ready : available other = true) :
    ∃ next position, select available size cursor = (next, some position) ∧
      Selected available size (cursor % size) next position := by
  have nonempty : 0 < size := by omega
  have bounded := Nat.mod_lt cursor nonempty
  rcases result : select available size cursor with ⟨next, _ | position⟩
  next =>
    rw [← select_mod available size cursor nonempty] at result
    have far := scan_exhausted available size size _ next other bounded result within ready
    have near := distance_lt size _ other bounded within
    omega
  next => exact ⟨next, position, rfl, select_selected available size cursor _ _ nonempty result⟩

def queue (available : Nat → Bool) (size cursor : Nat) : List Nat :=
  ((List.range size).rotate cursor).filter available

theorem rotate_range_mod (size cursor : Nat) :
    (List.range size).rotate (cursor % size) = (List.range size).rotate cursor := by
  simpa using List.rotate_mod (List.range size) cursor

theorem rotate_range_cons (size cursor : Nat) (nonempty : 0 < size) :
    ∃ rest, (List.range size).rotate cursor = cursor % size :: rest ∧
      (List.range size).rotate (cursor + 1) = rest ++ [cursor % size] := by
  cases turned : (List.range size).rotate cursor with
  | nil =>
      have := congrArg List.length turned
      simp at this
      omega
  | cons head rest =>
      have first : ((List.range size).rotate cursor)[0]? = some (cursor % size) := by
        rw [List.getElem?_rotate (by simpa using nonempty)]
        simp [Nat.mod_lt cursor nonempty]
      obtain rfl : head = cursor % size := by simpa [turned] using first
      refine ⟨rest, rfl, ?_⟩
      rw [← List.rotate_rotate, turned, List.rotate_cons_succ, List.rotate_zero]

theorem scan_find (available : Nat → Bool) (size remaining cursor : Nat)
    (fits : remaining ≤ size) :
    (scan available size remaining cursor).2 =
      (((List.range size).rotate cursor).take remaining).find? available := by
  induction remaining generalizing cursor with
  | zero => simp [scan]
  | succ remaining ih =>
      obtain ⟨rest, here, later⟩ := rotate_range_cons size cursor (by omega)
      have enough : remaining ≤ rest.length := by
        have := congrArg List.length here
        simp at this
        omega
      have tail := ih ((cursor + 1) % size) (by omega)
      rw [rotate_range_mod, later, List.take_append_of_le_length enough] at tail
      rw [scan, here, List.take_succ_cons, List.find?_cons]
      split
      next ready => simp [ready]
      next busy => simpa [busy] using tail

theorem scan_none_cursor (available : Nat → Bool) (size remaining cursor next : Nat)
    (result : scan available size remaining cursor = (next, none)) (some' : 0 < remaining) :
    next = (cursor + remaining) % size := by
  induction remaining generalizing cursor with
  | zero => omega
  | succ remaining ih =>
      rw [scan] at result
      split at result
      next => simp at result
      next =>
        cases remaining with
        | zero => simpa [scan] using result.symm
        | succ remaining =>
            rw [ih _ result (by omega), Nat.mod_add_mod]
            congr 1
            omega

theorem select_of_queue_nil (available : Nat → Bool) (size cursor : Nat)
    (empty : queue available size cursor = []) :
    select available size cursor = (if size = 0 then cursor else cursor % size, none) := by
  have found := scan_find available size size cursor le_rfl
  rw [List.take_of_length_le (by simp), ← List.head?_filter,
    show ((List.range size).rotate cursor).filter available = [] from empty] at found
  rcases result : scan available size size cursor with ⟨next, position⟩
  obtain rfl : position = none := by simpa [result] using found
  rw [select, result]
  by_cases none' : size = 0
  · subst none'
    simpa [scan, eq_comm] using result
  · simp [none', scan_none_cursor _ _ _ _ _ result (by omega)]

theorem select_of_queue_cons (available : Nat → Bool) (size cursor position : Nat)
    (rest : List Nat) (queued : queue available size cursor = position :: rest) :
    select available size cursor = ((position + 1) % size, some position) ∧
      queue available size ((position + 1) % size) = rest ++ [position] := by
  obtain ⟨before, after, turned, unready, ready, tail⟩ := List.filter_eq_cons_iff.mp queued
  have total : size = before.length + (after.length + 1) := by
    simpa using congrArg List.length turned
  have found := scan_find available size size cursor le_rfl
  rw [List.take_of_length_le (by simp), ← List.head?_filter,
    show ((List.range size).rotate cursor).filter available = _ from queued] at found
  rcases result : scan available size size cursor with ⟨next, selected⟩
  obtain rfl : selected = some position := by simpa [result] using found
  have picked := select_selected available size cursor next position (by omega) result
  refine ⟨by rw [select, result, picked.advanced], ?_⟩
  -- The cursor stops just behind what it has passed.
  have place : (before.length + cursor) % size = position := by
    have here : ((List.range size).rotate cursor)[before.length]? = some position := by
      simp [turned]
    rw [List.getElem?_rotate (by simp; omega)] at here
    simpa [Nat.mod_lt _ (show 0 < size by omega)] using here
  have moved : (List.range size).rotate (position + 1) = after ++ (before ++ [position]) := by
    have behind : (position + 1) % size = (cursor + (before ++ [position]).length) % size := by
      rw [← place, Nat.mod_add_mod, List.length_append, List.length_singleton]
      congr 1
      omega
    rw [← rotate_range_mod, behind, rotate_range_mod, ← List.rotate_rotate, turned,
      List.append_cons, List.rotate_append_length_eq]
  have passed : before.filter available = [] := by
    simpa [List.filter_eq_nil_iff] using unready
  rw [queue, rotate_range_mod, moved, List.filter_append, List.filter_append, passed, tail]
  simp [ready]

section Progress

variable {available : Nat → Bool} {size cursor next position : Nat}

theorem Selected.next_lt (picked : Selected available size cursor next position) :
    next < size := by
  have := picked.within
  rw [picked.advanced]
  exact Nat.mod_lt _ (by omega)

theorem Selected.distance_other (picked : Selected available size cursor next position)
    (bounded : cursor < size) (other : Nat) (within : other < size)
    (ready : available other = true) (passed : other ≠ position) :
    distance size cursor other =
      distance size next other + (distance size cursor position + 1) := by
  have inside := picked.within
  have nearest := picked.nearest other within ready
  rw [picked.advanced, advance_eq size position inside]
  unfold distance at nearest ⊢
  split_ifs at nearest ⊢ <;> omega

theorem Selected.distance_self (picked : Selected available size cursor next position) :
    distance size next position = size - 1 := by
  have inside := picked.within
  rw [picked.advanced, advance_eq size position inside]
  unfold distance
  split_ifs <;> omega

theorem Selected.distance_bound_lt (picked : Selected available size cursor next position)
    (bounded : cursor < size) (bound other : Nat) (fits : size ≤ bound) (within : other < size)
    (ready : available other = true) (passed : other ≠ position) :
    distance bound next other < distance bound cursor other := by
  -- The ring may have up to `bound` positions by the next selection, so a cursor that
  -- has passed `other` is charged the longest way round.
  have inside := picked.within
  have nearest := picked.nearest other within ready
  rw [picked.advanced, advance_eq size position inside]
  unfold distance at nearest ⊢
  split_ifs at nearest ⊢ <;> omega

end Progress

def ring (size : Nat) : Machine Nat (Nat → Bool) (Option Nat) where
  step cursor available := select available size cursor

def lead (size cursor first second : Nat) : Int :=
  -- The cursor reaches `first` before `second`.
  if distance size (cursor % size) first < distance size (cursor % size) second then 1 else 0

theorem lead_step (size cursor first second : Nat) (available : Nat → Bool)
    (different : first ≠ second) (firstWithin : first < size) (secondWithin : second < size)
    (firstReady : available first = true) (secondReady : available second = true) :
    (if (select available size cursor).2 = some first then 1 else 0) -
        (if (select available size cursor).2 = some second then 1 else 0) =
      lead size cursor first second - lead size (select available size cursor).1 first second := by
  -- The chosen position falls to the far end of the ring; the others keep their order.
  have bounded : cursor % size < size := Nat.mod_lt _ (by omega)
  obtain ⟨next, position, result, picked⟩ :=
    select_succeeds available size cursor first firstWithin firstReady
  have nextBound := picked.next_lt
  simp only [result, lead, Nat.mod_eq_of_lt nextBound, Option.some.injEq]
  have firstReach := distance_lt size (cursor % size) first bounded firstWithin
  have secondReach := distance_lt size (cursor % size) second bounded secondWithin
  by_cases isFirst : position = first
  next =>
    subst isFirst
    have self := picked.distance_self
    have gap := picked.distance_other bounded second secondWithin secondReady different.symm
    simp only [if_true, different, if_false]
    split_ifs <;> omega
  next =>
    by_cases isSecond : position = second
    next =>
      subst isSecond
      have self := picked.distance_self
      have gap := picked.distance_other bounded first firstWithin firstReady different
      simp only [if_true, isFirst, if_false]
      split_ifs <;> omega
    next =>
      have firstGap := picked.distance_other bounded first firstWithin firstReady (Ne.symm isFirst)
      have secondGap :=
        picked.distance_other bounded second secondWithin secondReady (Ne.symm isSecond)
      simp only [isFirst, isSecond, if_false]
      split_ifs <;> omega

theorem ring_count_eq_lead (size cursor first second : Nat) (inputs : List (Nat → Bool))
    (different : first ≠ second) (firstWithin : first < size) (secondWithin : second < size)
    (ready : ∀ available ∈ inputs, available first = true ∧ available second = true) :
    (((ring size).outputs cursor inputs).count (some first) : Int) -
        ((ring size).outputs cursor inputs).count (some second) =
      lead size cursor first second - lead size ((ring size).run cursor inputs) first second := by
  -- The leads telescope over the stretch, whatever becomes of the other positions.
  induction inputs generalizing cursor with
  | nil => simp
  | cons available rest ih =>
      have now := ready available (by simp)
      have step := lead_step size cursor first second available different firstWithin
        secondWithin now.1 now.2
      have later := ih (select available size cursor).1
        (fun other member => ready other (List.mem_cons_of_mem _ member))
      simp only [Machine.outputs_cons, Machine.run_cons, ring, List.count_cons, beq_iff_eq]
      simp only [ring] at later
      push_cast
      split_ifs at step ⊢ <;> omega

theorem ring_fair (size cursor first second : Nat) (inputs : List (Nat → Bool))
    (firstWithin : first < size) (secondWithin : second < size)
    (ready : ∀ available ∈ inputs, available first = true ∧ available second = true) :
    ((ring size).outputs cursor inputs).count (some first) ≤
      ((ring size).outputs cursor inputs).count (some second) + 1 := by
  by_cases different : first = second
  · simp [different]
  · have counted := ring_count_eq_lead size cursor first second inputs different firstWithin
      secondWithin ready
    unfold lead at counted
    split_ifs at counted <;> omega

/-- However the others come and go, a position that stays ready is chosen within one round. -/
theorem ring_waits (size cursor position : Nat) (inputs : List (Nat → Bool))
    (within : position < size) (ready : ∀ available ∈ inputs, available position = true)
    (long : distance size (cursor % size) position < inputs.length) :
    some position ∈ (ring size).outputs cursor inputs := by
  have nonempty : 0 < size := Nat.lt_of_le_of_lt (Nat.zero_le position) within
  induction inputs generalizing cursor with
  | nil => exact absurd long (Nat.not_lt_zero _)
  | cons available rest ih =>
      obtain ⟨here, later⟩ := List.forall_mem_cons.mp ready
      obtain ⟨next, chosen, result, picked⟩ :=
        select_succeeds available size cursor position within here
      rw [Machine.outputs_cons]
      show some position ∈ (select available size cursor).2 ::
        (ring size).outputs (select available size cursor).1 rest
      rw [result]
      by_cases same : position = chosen
      · exact same ▸ List.mem_cons_self
      · refine List.mem_cons_of_mem _ (ih next later ?_)
        have nearer := picked.distance_bound_lt (Nat.mod_lt cursor nonempty) size position le_rfl
          within here same
        rw [Nat.mod_eq_of_lt picked.next_lt]
        rw [List.length_cons] at long
        omega

end RoundRobin
