import MadRpc.Metrics.MapLock

set_option autoImplicit false

namespace MadRpc.ConcurrentMetrics

open SharedRegistry

structure Holds (owner : Nat → String) (registry : SharedRegistry) (active : ActiveCall) :
    Prop where
  pointer : ∀ entry, active.point.pointer = some entry →
    entry < registry.allocated ∧ owner entry = active.call.method
  program : ∀ entry rest, active.point.program = some (entry, rest) →
    active.point.pointer = some entry ∧ rest <:+ Update.recording

structure Owned (owner : Nat → String) (state : ConcurrentMetrics) : Prop where
  tracked : ∀ method entry, state.registry.methods.lookup method = some entry →
    entry < state.registry.allocated ∧ owner entry = method
  held : ∀ active ∈ state.calls, Holds owner state.registry active

theorem holds_start (owner : Nat → String) (registry : SharedRegistry) (call : MethodCall) :
    Holds owner registry ⟨call, .incrementTotal⟩ :=
  ⟨nofun, nofun⟩

theorem Holds.allocate {owner : Nat → String} {before after : SharedRegistry}
    {active : ActiveCall} (holds : Holds owner before active) (method : String)
    (allocated : after.allocated = before.allocated + 1) :
    Holds (Function.update owner before.allocated method) after active where
  pointer entry found := by
    obtain ⟨inside, owned⟩ := holds.pointer entry found
    rw [Function.update_of_ne (Nat.ne_of_lt inside), allocated]
    exact ⟨Nat.lt_succ_of_lt inside, owned⟩
  program := holds.program

theorem Holds.same {owner : Nat → String} {before after : SharedRegistry} {active : ActiveCall}
    (holds : Holds owner before active) (allocated : after.allocated = before.allocated) :
    Holds owner after active where
  pointer entry found := allocated ▸ holds.pointer entry found
  program := holds.program

theorem effect_owned {owner : Nat → String} {state : ConcurrentMetrics} {active : ActiveCall}
    {after : SharedRegistry} {next : Point} (owned : Owned owner state) (index : Nat)
    (here : state.calls[index]? = some active)
    (effect : Effect active.call state.registry active.point after next) :
    ∃ owner, Owned owner
      { registry := after, calls := state.calls.set index { active with point := next } } := by
  have mine := owned.held active (List.mem_of_getElem? here)
  -- Of the calls only the one that moved has to be looked at.
  have others {owner : Nat → String} (kept : ∀ active ∈ state.calls, Holds owner after active)
      (moved : Holds owner after { active with point := next }) :
      ∀ other ∈ state.calls.set index { active with point := next }, Holds owner after other := by
    intro other member
    obtain before | rfl := List.mem_or_eq_of_mem_set member
    · exact kept other before
    · exact moved
  cases effect with
  | elsewhere methods stats allocated pointer program =>
      refine ⟨owner, ?_, others (fun other member => (owned.held other member).same allocated) ?_⟩
      · intro method entry found
        rw [allocated]
        exact owned.tracked method entry (methods method entry found)
      · constructor
        · intro entry found
          rw [allocated]
          exact mine.pointer entry (pointer ▸ found)
        · intro entry rest found
          have before := mine.program entry rest (program ▸ found)
          exact ⟨pointer.trans before.1, before.2⟩
  | found entry point known same =>
      subst same
      refine ⟨owner, owned.tracked, others owned.held ?_⟩
      constructor
      · intro _ found
        cases found
        exact owned.tracked active.call.method entry known
      · nofun
  | created systemTime now point methods stats allocated =>
      refine ⟨Function.update owner state.registry.allocated active.call.method, ?_,
        others (fun other member => (owned.held other member).allocate _ allocated) ?_⟩
      · intro method entry found
        rw [methods, AList.lookup_insert_ite] at found
        rw [allocated]
        split at found
        next same =>
          cases found
          rw [Function.update_self]
          exact ⟨Nat.lt_succ_self _, same.symm⟩
        next =>
          obtain ⟨inside, owns⟩ := owned.tracked method entry found
          rw [Function.update_of_ne (Nat.ne_of_lt inside)]
          exact ⟨Nat.lt_succ_of_lt inside, owns⟩
      · constructor
        · intro _ found
          cases found
          rw [Function.update_self, allocated]
          exact ⟨Nat.lt_succ_self _, rfl⟩
        · nofun
  | left entry point same =>
      refine ⟨owner, ?_, others (fun other member => (owned.held other member).same same.allocated)
        ?_⟩
      · intro method entry found
        rw [same.allocated]
        exact owned.tracked method entry (same.methods ▸ found)
      · constructor
        · intro _ found
          cases found
          rw [same.allocated]
          exact mine.pointer entry (by rw [point]; rfl)
        · intro _ _ found
          cases found
          exact ⟨rfl, List.suffix_rfl⟩
  | updated entry systemTime now systemTime' now' update rest point methods stats allocated =>
      refine ⟨owner, ?_, others (fun other member => (owned.held other member).same allocated) ?_⟩
      · intro method entry found
        rw [allocated]
        exact owned.tracked method entry (methods ▸ found)
      · constructor
        · intro _ found
          cases found
          rw [allocated]
          exact mine.pointer entry (by rw [point]; rfl)
        · intro _ _ found
          cases found
          have before := mine.program entry (update :: rest) (by rw [point]; rfl)
          exact ⟨rfl, (List.suffix_cons update rest).trans before.2⟩

theorem step_owned (state : ConcurrentMetrics) (input : ConcurrentInput)
    (owned : ∃ owner, Owned owner state) : ∃ owner, Owned owner (state.step input) := by
  obtain ⟨owner, owned⟩ := owned
  have stepped := step_cases state input
  generalize state.step input = next at stepped
  cases stepped with
  | began call =>
      refine ⟨owner, owned.tracked, ?_⟩
      intro active member
      obtain member | member := List.mem_append.mp member
      · exact owned.held active member
      · rw [List.mem_singleton.mp member]
        exact holds_start owner state.registry call
  | unknown => exact ⟨owner, owned⟩
  | advanced index input active here =>
      exact effect_owned owned index here (advance_effect index active.call input _ _)

def Retains (method : String) (state : ConcurrentMetrics) (input : ConcurrentInput) : Prop :=
  state.registry.methods.lookup method ≠ none →
    (state.step input).registry.methods.lookup method ≠ none

instance (method : String) (state : ConcurrentMetrics) (input : ConcurrentInput) :
    Decidable (Retains method state input) :=
  inferInstanceAs (Decidable (_ → _))

def Single (method : String) (state : ConcurrentMetrics) : Prop :=
  ∀ active ∈ state.calls, active.call.method = method →
    ∀ entry, active.point.pointer = some entry →
      state.registry.methods.lookup method = some entry

theorem effect_stays {call : MethodCall} {before after : SharedRegistry} {point next : Point}
    (absent : point.vacant = true → before.methods.lookup call.method = none)
    (effect : Effect call before point after next) {method : String}
    (retains : before.methods.lookup method ≠ none → after.methods.lookup method ≠ none)
    {entry : Nat} (tracked : before.methods.lookup method = some entry) :
    after.methods.lookup method = some entry := by
  cases effect with
  | elsewhere methods =>
      obtain ⟨other, found⟩ := Option.ne_none_iff_exists'.mp (retains (by simp [tracked]))
      rw [methods method other found] at tracked
      rw [found, tracked]
  | found own point known same => rw [same, tracked]
  | created systemTime now point methods =>
      have other : method ≠ call.method := by
        intro same
        rw [same, absent (by rw [point]; rfl)] at tracked
        cases tracked
      rw [methods, AList.lookup_insert_ne other, tracked]
  | left own point same => rw [same.methods, tracked]
  | updated own systemTime now systemTime' now' update rest point methods =>
      rw [methods, tracked]

def Attached (registry : SharedRegistry) (active : ActiveCall) : Prop :=
  ∀ entry, active.point.pointer = some entry →
    registry.methods.lookup active.call.method = some entry

theorem effect_attached {active : ActiveCall} {before after : SharedRegistry} {next : Point}
    (absent : active.point.vacant = true → before.methods.lookup active.call.method = none)
    (effect : Effect active.call before active.point after next)
    (retains : active.point.pointer ≠ none → before.methods.lookup active.call.method ≠ none →
      after.methods.lookup active.call.method ≠ none)
    (attached : Attached before active) : Attached after { active with point := next } := by
  intro entry pointer
  have stays (held : active.point.pointer = some entry) :=
    effect_stays absent effect (retains (by simp [held])) (attached entry held)
  cases effect with
  | elsewhere _ _ _ same => exact stays (same ▸ pointer)
  | found own point known same =>
      cases pointer
      rw [same]
      exact known
  | created systemTime now point methods =>
      cases pointer
      rw [methods]
      exact AList.lookup_insert _
  | left own point =>
      cases pointer
      exact stays (by rw [point]; rfl)
  | updated own systemTime now systemTime' now' update rest point =>
      cases pointer
      exact stays (by rw [point]; rfl)

theorem effect_single {state : ConcurrentMetrics} {active : ActiveCall} {after : SharedRegistry}
    {next : Point} (index : Nat) (here : state.calls[index]? = some active)
    (guarded : Guarded state.registry index active.call active.point)
    (effect : Effect active.call state.registry active.point after next) (method : String)
    (retains : state.registry.methods.lookup method ≠ none → after.methods.lookup method ≠ none)
    (single : Single method state) :
    Single method
      { registry := after, calls := state.calls.set index { active with point := next } } := by
  intro other member called entry pointer
  obtain before | rfl := List.mem_or_eq_of_mem_set member
  · exact effect_stays guarded.absent effect retains (single other before called entry pointer)
  · have mine := single active (List.mem_of_getElem? here) called
    subst called
    exact effect_attached guarded.absent effect (fun _ => retains) mine entry pointer

theorem step_single (state : ConcurrentMetrics) (input : ConcurrentInput) (locked : state.Locked)
    (method : String) (retains : Retains method state input) (single : Single method state) :
    Single method (state.step input) := by
  have stepped := step_cases state input
  rw [Retains] at retains
  generalize state.step input = next at stepped retains
  cases stepped with
  | began call =>
      intro active member
      obtain member | member := List.mem_append.mp member
      · exact single active member
      · rw [List.mem_singleton.mp member]
        nofun
  | unknown => exact single
  | advanced index input active here =>
      exact effect_single index here (locked index active here)
        (advance_effect index active.call input _ _) method retains single

end MadRpc.ConcurrentMetrics
