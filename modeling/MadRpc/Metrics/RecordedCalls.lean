import MadRpc.Metrics.Eviction

set_option autoImplicit false

namespace MadRpc.ConcurrentMetrics

open SharedRegistry

def SparesEntry (index : Nat) (state : ConcurrentMetrics) (input : MetricsInput) : Prop :=
  ∀ active, state.calls[index]? = some active → active.point.pointer ≠ none →
    state.evicts active.call.method input = false

def NoCleanup (state : ConcurrentMetrics) (input : MetricsInput) : Prop :=
  state.cleaning input = false

theorem NoCleanup.spares (index : Nat) {state : ConcurrentMetrics} {input : MetricsInput}
    (quiet : NoCleanup state input) : SparesEntry index state input :=
  fun _ _ _ => evicts_of_quiet quiet

theorem take_active {state : ConcurrentMetrics} {index : Nat} {active : ActiveCall}
    (input : MetricsInput) (here : state.calls[index]? = some active) :
    ∃ later, (state.take input).calls[index]? = some later ∧ later.call = active.call ∧
      (later = active ∨ ∃ own, input = .call (.advance index own) ∧
        later.point = (state.registry.advance index active.call own active.point).2) := by
  cases input with
  | outside step => exact ⟨active, here, rfl, .inl rfl⟩
  | call input =>
      have stepped := step_cases state input
      simp only [take]
      generalize state.step input = next at stepped
      cases stepped with
      | began call =>
          have inside := (List.getElem?_eq_some_iff.mp here).1
          exact ⟨active, (List.getElem?_append_left inside).trans here, rfl, .inl rfl⟩
      | unknown => exact ⟨active, here, rfl, .inl rfl⟩
      | advanced other own moved there =>
          by_cases same : other = index
          · subst same
            cases here.symm.trans there
            have inside := (List.getElem?_eq_some_iff.mp here).1
            exact ⟨_, List.getElem?_set_self inside, rfl, .inr ⟨own, rfl, rfl⟩⟩
          · exact ⟨active, (List.getElem?_set_ne same).trans here, rfl, .inl rfl⟩

theorem advance_pointer {index : Nat} {call : MethodCall} {input : Surroundings}
    {registry : SharedRegistry} {point : Point} {entry : Nat}
    (held : point.pointer = some entry) :
    (registry.advance index call input point).2.pointer = some entry := by
  have effect := advance_effect index call input registry point
  generalize (registry.advance index call input point).1 = after at effect
  generalize (registry.advance index call input point).2 = next at effect ⊢
  cases effect with
  | elsewhere _ _ _ pointer => exact pointer.trans held
  | found own here | created _ _ here =>
      rw [here] at held
      cases held
  | left own here | updated own _ _ _ _ _ _ here =>
      rw [here] at held
      exact held

theorem take_pointer {state : ConcurrentMetrics} {index : Nat} {active : ActiveCall} {entry : Nat}
    (input : MetricsInput) (here : state.calls[index]? = some active)
    (held : active.point.pointer = some entry) :
    ∃ later, (state.take input).calls[index]? = some later ∧ later.call = active.call ∧
      later.point.pointer = some entry := by
  obtain ⟨later, there, same, moved⟩ := take_active input here
  refine ⟨later, there, same, ?_⟩
  rcases moved with rfl | ⟨own, -, point⟩
  · exact held
  · rw [point]
    exact advance_pointer held

def EntryKept (index : Nat) (state : ConcurrentMetrics) : Prop :=
  ∀ active, state.calls[index]? = some active → Attached state.registry active

theorem outside_entryKept (index : Nat) (state : ConcurrentMetrics) (step : OutsideStep)
    (spares : SparesEntry index state (.outside step)) (kept : EntryKept index state) :
    EntryKept index (state.take (.outside step)) := by
  intro active here entry pointer
  have before := kept active here entry pointer
  have present := take_spared (spares active here (by simp [pointer])) (by simp [before])
  obtain ⟨other, found⟩ := Option.ne_none_iff_exists'.mp present
  have same := (outside_outside state.registry step).methods _ other found
  rw [found, ← same, before]

theorem take_entryKept (index : Nat) (state : ConcurrentMetrics) (input : MetricsInput)
    (locked : state.Locked) (spares : SparesEntry index state input)
    (kept : EntryKept index state) : EntryKept index (state.take input) := by
  cases input with
  | outside step => exact outside_entryKept index state step spares kept
  | call input =>
      have stepped := step_cases state input
      have retains (active : ActiveCall) (here : state.calls[index]? = some active)
          (holds : active.point.pointer ≠ none) := take_spared (spares active here holds)
      simp only [take] at retains ⊢
      generalize state.step input = next at stepped retains
      intro active there
      cases stepped with
      | began call =>
          rw [List.getElem?_append] at there
          split at there
          next => exact kept active there
          next =>
            rw [List.getElem?_singleton] at there
            split at there
            next =>
              cases there
              intro entry pointer
              cases pointer
            next => cases there
      | unknown => exact kept active there
      | advanced other own moved here =>
          have effect := advance_effect other moved.call own state.registry moved.point
          have guarded := locked other moved here
          by_cases same : other = index
          · subst same
            have inside := (List.getElem?_eq_some_iff.mp here).1
            rw [List.getElem?_set_self inside] at there
            cases there
            exact effect_attached guarded.absent effect (retains moved here) (kept moved here)
          · rw [List.getElem?_set_ne same] at there
            intro entry pointer
            exact effect_stays guarded.absent effect (retains active there (by simp [pointer]))
              (kept active there entry pointer)

theorem step_lookup_back (state : ConcurrentMetrics) (input : ConcurrentInput) {method : String}
    {entry : Nat} (inside : entry < state.registry.allocated)
    (tracked : (state.step input).registry.methods.lookup method = some entry) :
    state.registry.methods.lookup method = some entry := by
  have stepped := step_cases state input
  generalize state.step input = next at stepped tracked
  cases stepped with
  | began call => exact tracked
  | unknown => exact tracked
  | advanced index own active here =>
      have effect := advance_effect index active.call own state.registry active.point
      simp only at tracked
      generalize (state.registry.advance index active.call own active.point).1 = after at *
      generalize (state.registry.advance index active.call own active.point).2 = next at *
      cases effect with
      | elsewhere methods => exact methods method entry tracked
      | found own point known same => rwa [same] at tracked
      | created systemTime now point methods =>
          rw [methods, AList.lookup_insert_ite] at tracked
          split at tracked
          next =>
            cases tracked
            exact absurd inside (Nat.lt_irrefl _)
          next => exact tracked
      | left own point same => rwa [same.methods] at tracked
      | updated own systemTime now systemTime' now' update rest point methods =>
          rwa [methods] at tracked

theorem take_lookup_back (state : ConcurrentMetrics) (input : MetricsInput) {method : String}
    {entry : Nat} (inside : entry < state.registry.allocated)
    (tracked : (state.take input).registry.methods.lookup method = some entry) :
    state.registry.methods.lookup method = some entry := by
  cases input with
  | call input => exact step_lookup_back state input inside tracked
  | outside step => exact (outside_outside state.registry step).methods method entry tracked

/-- An entry that has left the map does not come back, so that a reference to what is in the map
at the end has never been cut off. -/
theorem take_back (index : Nat) (state : ConcurrentMetrics) (input : MetricsInput)
    (sound : Sound state) (kept : EntryKept index (state.take input)) :
    SparesEntry index state input ∧ EntryKept index state := by
  have after (active : ActiveCall) (here : state.calls[index]? = some active) (entry : Nat)
      (pointer : active.point.pointer = some entry) :
      (state.take input).registry.methods.lookup active.call.method = some entry := by
    obtain ⟨later, there, same, held⟩ := take_pointer input here pointer
    rw [← same]
    exact kept later there entry held
  constructor
  · intro active here holds
    obtain ⟨entry, pointer⟩ := Option.ne_none_iff_exists'.mp holds
    rw [← Bool.not_eq_true]
    intro evicted
    cases (after active here entry pointer).symm.trans (take_evicted evicted)
  · intro active here entry pointer
    obtain ⟨owner, owned⟩ := sound.owned
    have inside := ((owned.held active (List.mem_of_getElem? here)).pointer entry pointer).1
    exact take_lookup_back state input inside (after active here entry pointer)

def Finished (index : Nat) (state : ConcurrentMetrics) : Prop :=
  ∃ active, state.calls[index]? = some active ∧ active.point.finished = true

def Returns (index : Nat) (state : ConcurrentMetrics) (input : MetricsInput) : Prop :=
  ¬ Finished index state ∧ Finished index (state.take input)

/-- The method of the call is in the map, and the call is one of those its entry has counted. -/
def Counted (index : Nat) (state : ConcurrentMetrics) : Prop :=
  ∃ active entry, state.calls[index]? = some active ∧
    state.registry.methods.lookup active.call.method = some entry ∧
    (state.registry.stats entry).callCount =
      UInt64.ofNat (tally (Counter.callCount.added entry) state.calls) ∧
    Counter.callCount.added entry active = 1

theorem advance_finished {index : Nat} {call : MethodCall} {input : Surroundings}
    {registry : SharedRegistry} {point : Point} (ended : point.finished = true) :
    (registry.advance index call input point).2.finished = true := by
  cases point with
  | recording entry systemTime now rest =>
      cases rest with
      | nil => rfl
      | cons => cases ended
  | _ => cases ended

theorem advance_cleaning {index : Nat} {call : MethodCall} {input : Surroundings}
    {registry : SharedRegistry} {point : Point} (cleaning : point.cleaning = true) :
    (registry.advance index call input point).2.finished = false := by
  cases point with
  | lockCleanup now | limiting now =>
      simp only [advance]
      split <;> rfl
  | retaining now names => cases names <;> rfl
  | ranking now names entries => cases names <;> rfl
  | removing now names => cases names <;> rfl
  | unlockCleanup now => rfl
  | _ => cases cleaning

theorem take_finished (index : Nat) (state : ConcurrentMetrics) (input : MetricsInput)
    (finished : Finished index state) : Finished index (state.take input) := by
  obtain ⟨active, here, ended⟩ := finished
  obtain ⟨later, there, -, moved⟩ := take_active input here
  refine ⟨later, there, ?_⟩
  rcases moved with rfl | ⟨own, -, point⟩
  · exact ended
  · rw [point]
    exact advance_finished ended

theorem Returns.noCleanup {index : Nat} {state : ConcurrentMetrics} {input : MetricsInput}
    (returns : Returns index state input) : NoCleanup state input := by
  obtain ⟨running, later, there, ended⟩ := returns
  cases here : state.calls[index]? with
  | none =>
      -- Only a call that has just begun has not been there before.
      cases input with
      | outside step => cases here.symm.trans there
      | call input =>
          cases input with
          | begin call => rfl
          | advance other own =>
              exfalso
              simp only [take, step] at there
              split at there
              next =>
                have outside := List.getElem?_eq_none_iff.mp here
                rw [List.getElem?_eq_none (by rwa [List.length_set])] at there
                cases there
              next => cases here.symm.trans there
  | some active =>
      obtain ⟨later', there', -, moved⟩ := take_active input here
      cases there.symm.trans there'
      rcases moved with rfl | ⟨own, rfl, point⟩
      · exact absurd ⟨later, here, ended⟩ running
      · simp only [NoCleanup, cleaning, here]
        rw [← Bool.not_eq_true]
        intro cleaning
        rw [point, advance_cleaning cleaning] at ended
        cases ended

theorem counted_iff {index : Nat} {state : ConcurrentMetrics} (sound : Sound state)
    (finished : Finished index state) : Counted index state ↔ EntryKept index state := by
  obtain ⟨active, here, ended⟩ := finished
  obtain ⟨own, pointer, program⟩ := finished_program ended
  have added (entry : Nat) :
      Counter.callCount.added entry active = if own = entry then 1 else 0 := by
    rw [Counter.added_of_program program, Counter.owed_callCount]
    rfl
  constructor
  · rintro ⟨active', entry, here', tracked, -, counted⟩ other there entry' pointer'
    cases here.symm.trans here'
    cases here.symm.trans there
    cases pointer.symm.trans pointer'
    rw [added] at counted
    split at counted
    next same => rw [same, tracked]
    next => cases counted
  · intro kept
    obtain ⟨owner, owned⟩ := sound.owned
    have tracked := kept active here own pointer
    refine ⟨active, own, here, tracked, ?_, ?_⟩
    · exact sound.balanced Counter.callCount own (owned.tracked _ own tracked).1
    · rw [added, if_pos rfl]

theorem run_counted (config : MetricsConfig) (clock : TimestampClock)
    (inputs : List MetricsInput) (index : Nat)
    (finished : Finished index (interleaved.run (withConfig config clock) inputs)) :
    Counted index (interleaved.run (withConfig config clock) inputs) ↔
      interleaved.EachStep (SparesEntry index) (withConfig config clock) inputs := by
  rw [counted_iff (interleaved_sound config clock inputs) finished]
  constructor
  · intro kept
    exact (interleaved.eachStep_of_last Sound (EntryKept index) (SparesEntry index) take_sound
      (take_back index) (withConfig config clock) inputs (withConfig_sound config clock) kept).1
  · intro spares
    have both := interleaved.run_invariant_of_steps
      (fun state => Sound state ∧ EntryKept index state) (SparesEntry index)
      (fun state input holds spares => ⟨take_sound state input holds.1,
        take_entryKept index state input holds.1.locked spares holds.2⟩)
      (withConfig config clock) inputs ⟨withConfig_sound config clock, nofun⟩ spares
    exact both.2

theorem recorded_call_counted (config : MetricsConfig) (clock : TimestampClock)
    (before after : List MetricsInput) (input : MetricsInput) (index : Nat)
    (returns : Returns index (interleaved.run (withConfig config clock) before) input)
    (quiet : interleaved.EachStep NoCleanup
      (interleaved.run (withConfig config clock) (before ++ [input])) after) :
    Counted index (interleaved.run (withConfig config clock) (before ++ input :: after)) ↔
      interleaved.EachStep (SparesEntry index) (withConfig config clock) before := by
  rw [Machine.run_append] at quiet
  have finished :
      Finished index (interleaved.run (withConfig config clock) (before ++ input :: after)) := by
    rw [Machine.run_append]
    exact interleaved.run_invariant (Finished index) (take_finished index) _ after returns.2
  rw [run_counted config clock _ index finished, Machine.eachStep_append]
  constructor
  · exact And.left
  · intro spares
    refine ⟨spares, returns.noCleanup.spares index, ?_⟩
    exact interleaved.eachStep_mono (fun _ _ quiet => quiet.spares index) _ after quiet

instance (index : Nat) (state : ConcurrentMetrics) : Decidable (Finished index state) :=
  decidable_of_iff (state.calls[index]?.any fun active => active.point.finished) (by
    cases here : state.calls[index]? <;> simp [Finished, here])

instance (index : Nat) (state : ConcurrentMetrics) (input : MetricsInput) :
    Decidable (SparesEntry index state input) :=
  decidable_of_iff (state.calls[index]?.all fun active =>
      active.point.pointer.isNone || !state.evicts active.call.method input) (by
    cases here : state.calls[index]? <;>
      simp [SparesEntry, here, Option.isNone_iff_eq_none, or_iff_not_imp_left])

instance (index : Nat) (state : ConcurrentMetrics) (input : MetricsInput) :
    Decidable (Returns index state input) :=
  inferInstanceAs (Decidable (_ ∧ _))

instance (state : ConcurrentMetrics) (input : MetricsInput) : Decidable (NoCleanup state input) :=
  inferInstanceAs (Decidable (_ = _))

def advances (index count : Nat) (time : UInt64) : List MetricsInput :=
  List.replicate count (.call (.advance index ⟨some time, [], []⟩))

/-! A call that runs a cleanup before it records, next to a node request. -/

def firstCall : List MetricsInput :=
  .call (.begin ⟨"sum", 7, true⟩) :: advances 0 3 9 ++ .outside .countCleanup :: advances 0 25 9

theorem recorded_call_counted_witness :
    Counted 0 (interleaved.run (withConfig .default .initial)
      (firstCall ++ .call (.advance 0 ⟨some 9, [], []⟩) :: [.outside (.timestamp none)])) :=
  (recorded_call_counted .default .initial firstCall [.outside (.timestamp none)]
    (.call (.advance 0 ⟨some 9, [], []⟩)) 0 (by decide +kernel) (by decide +kernel)).mpr
    (by decide +kernel)

/-! The third call has looked the entry up when the cleanup of the first drops it as stale. -/

def overtaken : List MetricsInput :=
  [.call (.begin ⟨"mul", 7, true⟩)] ++ advances 0 3 0 ++
    [.call (.begin ⟨"sum", 7, true⟩)] ++ advances 1 22 0 ++
    [.call (.begin ⟨"sum", 7, true⟩)] ++ advances 2 6 3600100 ++
    advances 0 8 3600100 ++ advances 2 13 3600100

theorem overtaken_call_lost :
    Returns 2 (interleaved.run (withConfig .default .initial) overtaken)
        (.call (.advance 2 ⟨some 3600100, [], []⟩)) ∧
      ¬ Counted 2 (interleaved.run (withConfig .default .initial)
        (overtaken ++ [.call (.advance 2 ⟨some 3600100, [], []⟩)])) := by
  refine ⟨by decide +kernel, ?_⟩
  rintro ⟨active, entry, here, tracked, -⟩
  have named : ((interleaved.run (withConfig .default .initial)
      (overtaken ++ [.call (.advance 2 ⟨some 3600100, [], []⟩)])).calls[2]?.map
        fun active => active.call.method) = some "sum" := by decide +kernel
  have absent : (interleaved.run (withConfig .default .initial)
      (overtaken ++ [.call (.advance 2 ⟨some 3600100, [], []⟩)])).registry.methods.lookup
        "sum" = none := by decide +kernel
  rw [here, Option.map_some] at named
  rw [Option.some.inj named, absent] at tracked
  cases tracked

end MadRpc.ConcurrentMetrics
