import MadRpc.Metrics.Alone

set_option autoImplicit false

namespace MadRpc

namespace SharedRegistry

variable {index : Nat} {call : MethodCall}

theorem entry_reaches (time : Option UInt64) (registry : SharedRegistry) (rest : AtRest registry) :
    ∃ after entry, Reaches index call (registry, .lockEntry)
        (after, .recording entry 0 0 Update.recording) ∧
      after.view = registry.view.methodEntry call.method time ∧ AtRest after ∧
      after.methods.lookup call.method = some entry := by
  have locked : Reaches index call (registry, .lockEntry)
      ({ registry with methodsLock := some index }, .entering) :=
    reaches_step idle (by simp only [advance, rest.unlocked, if_true])
  have seen : registry.view.methods.lookup call.method =
      (registry.methods.lookup call.method).map registry.stats :=
    AList.lookup_through registry.stats registry.methods call.method
  cases found : registry.methods.lookup call.method with
  | some entry =>
      have entered : Reaches index call ({ registry with methodsLock := some index }, .entering)
          ({ registry with methodsLock := some index }, .leaving entry) :=
        reaches_step idle (by simp only [advance, found])
      have left : Reaches index call
          ({ registry with methodsLock := some index }, .leaving entry)
          (registry, .recording entry 0 0 Update.recording) :=
        reaches_step idle (by rw [advance, ← rest.unlocked])
      refine ⟨registry, entry, locked.trans (entered.trans left), ?_, rest, found⟩
      rw [MetricsRegistry.methodEntry, seen, found]
      rfl
  | none =>
      let clock := (registry.clock.getMonotonicTimestamp time).1
      let now := (registry.clock.getMonotonicTimestamp time).2
      let created : SharedRegistry :=
        { registry with
          clock := clock
          methods := registry.methods.insert call.method registry.allocated
          stats := Function.update registry.stats registry.allocated (.new now)
          allocated := registry.allocated + 1 }
      have entered : Reaches index call ({ registry with methodsLock := some index }, .entering)
          ({ registry with methodsLock := some index }, .creatingTime) :=
        reaches_step idle (by simp only [advance, found])
      have read : Reaches index call
          ({ registry with methodsLock := some index }, .creatingTime)
          ({ registry with
            methodsLock := some index
            clock := (registry.clock.readSystemTime time).1 },
            .creating (registry.clock.readSystemTime time).2) :=
        reaches_step ⟨time, [], []⟩ rfl
      have inserted : Reaches index call
          ({ registry with
            methodsLock := some index
            clock := (registry.clock.readSystemTime time).1 },
            .creating (registry.clock.readSystemTime time).2)
          ({ created with methodsLock := some index }, .leaving registry.allocated) :=
        reaches_step idle (by
          simp only [created, clock, now, TimestampClock.getMonotonicTimestamp_eq]
          rfl)
      have left : Reaches index call
          ({ created with methodsLock := some index }, .leaving registry.allocated)
          (created, .recording registry.allocated 0 0 Update.recording) :=
        reaches_step idle (by rw [advance, ← rest.unlocked])
      -- The entries that were there before are not the new one.
      have older : registry.methods.through (Function.update registry.stats registry.allocated
          (.new now)) = registry.methods.through registry.stats :=
        AList.through_congr fun entry member => Function.update_of_ne
          (Nat.ne_of_lt (rest.allocated entry.1 entry.2 (AList.lookup_of_mem member))) _ _
      refine ⟨created, registry.allocated,
        locked.trans (entered.trans (read.trans (inserted.trans left))), ?_, ?_,
        AList.lookup_insert _⟩
      · rw [MetricsRegistry.methodEntry, seen, found]
        rw [view, view]
        dsimp only [created]
        rw [AList.through_insert, Function.update_self, older]
        rfl
      · exact rest.inserted rfl rfl rest.unlocked

def touched (entry : Nat) (update : MethodStats → MethodStats) (registry : SharedRegistry) :
    SharedRegistry :=
  { registry with
    stats := Function.update registry.stats entry (update (registry.stats entry)) }

def stamped (entry : Nat) (update : UInt64 → MethodStats → MethodStats) (time : Option UInt64)
    (registry : SharedRegistry) : SharedRegistry :=
  { registry with clock := (registry.clock.getMonotonicTimestamp time).1 }.touched entry
    (update (registry.clock.getMonotonicTimestamp time).2)

theorem touched_stamped (entry : Nat) (first : MethodStats → MethodStats)
    (second : UInt64 → MethodStats → MethodStats) (time : Option UInt64)
    (registry : SharedRegistry) :
    (registry.touched entry first).stamped entry second time =
      registry.stamped entry (fun now stats => second now (first stats)) time := by
  unfold stamped touched
  dsimp only
  rw [Function.update_idem, Function.update_self]

theorem touched_touched (entry : Nat) (first second : MethodStats → MethodStats)
    (registry : SharedRegistry) :
    (registry.touched entry first).touched entry second =
      registry.touched entry fun stats => second (first stats) := by
  unfold touched
  dsimp only
  rw [Function.update_idem, Function.update_self]

theorem stamped_view (entry : Nat) (method : String)
    (update : UInt64 → MethodStats → MethodStats) (time : Option UInt64)
    (registry : SharedRegistry) (rest : AtRest registry)
    (tracked : registry.methods.lookup method = some entry) :
    (registry.stamped entry update time).view = registry.view.onMethod method update time := by
  have methods (value : MethodStats → MethodStats) :
      registry.methods.through (Function.update registry.stats entry
          (value (registry.stats entry))) =
        (registry.methods.through registry.stats).modify method value := by
    apply AList.ext
    simp only [AList.through, AList.modify, AList.mapVal, List.map_map]
    refine List.map_congr_left fun other member => ?_
    have found := AList.lookup_of_mem member
    by_cases same : other.1 = method
    · have own : other.2 = entry := Option.some.inj (found.symm.trans (same ▸ tracked))
      simp [same, own]
    · have foreign : other.2 ≠ entry := fun own =>
        same (rest.distinct method other.1 entry tracked (own ▸ found))
      simp [same, foreign]
  rw [view, MetricsRegistry.onMethod, stamped, touched]
  dsimp only
  rw [methods]
  rfl

theorem AtRest.stamped {registry : SharedRegistry} (rest : AtRest registry) (entry : Nat)
    (update : UInt64 → MethodStats → MethodStats) (time : Option UInt64) :
    AtRest (registry.stamped entry update time) :=
  rest.fewer (fun _ _ found => found) rfl rest.unlocked

theorem lastAccess_reaches (time : Option UInt64) (entry : Nat) (systemTime now : UInt64)
    (updates : List Update) (registry : SharedRegistry) :
    ∃ systemTime' now', Reaches index call
      (registry, .recording entry systemTime now (Update.updateLastAccess ++ updates))
      (registry.stamped entry MethodStats.updateLastAccess time,
        .recording entry systemTime' now' updates) := by
  let reading := registry.clock.readSystemTime time
  have read : Reaches index call
      (registry, .recording entry systemTime now (Update.updateLastAccess ++ updates))
      ({ registry with clock := reading.1 },
        .recording entry reading.2 now (.exchange :: .lastAccess :: updates)) :=
    reaches_step ⟨time, [], []⟩ rfl
  have exchanged : Reaches index call
      ({ registry with clock := reading.1 },
        .recording entry reading.2 now (.exchange :: .lastAccess :: updates))
      ({ registry with clock := (reading.1.exchange reading.2).1 },
        .recording entry reading.2 (reading.1.exchange reading.2).2 (.lastAccess :: updates)) :=
    reaches_step idle rfl
  refine ⟨reading.2, (reading.1.exchange reading.2).2,
    read.trans (exchanged.trans (reaches_step idle ?_))⟩
  rw [stamped, TimestampClock.getMonotonicTimestamp_eq]
  rfl

theorem access_reaches (access : Update) (entry : Nat) (systemTime now : UInt64)
    (updates : List Update) (registry : SharedRegistry) (plain : access ≠ .readSystemTime)
    (still : access ≠ .exchange) :
    Reaches index call (registry, .recording entry systemTime now (access :: updates))
      (registry.touched entry (access.apply call now),
        .recording entry systemTime now updates) := by
  refine reaches_step idle ?_
  cases access with
  | readSystemTime => exact absurd rfl plain
  | exchange => exact absurd rfl still
  | _ => rfl

theorem accesses_reaches (accesses : List Update) (entry : Nat) (systemTime now : UInt64)
    (updates : List Update) (registry : SharedRegistry)
    (plain : Update.readSystemTime ∉ accesses) (still : Update.exchange ∉ accesses) :
    Reaches index call (registry, .recording entry systemTime now (accesses ++ updates))
      (registry.touched entry fun stats =>
          accesses.foldl (fun stats access => access.apply call now stats) stats,
        .recording entry systemTime now updates) := by
  induction accesses generalizing registry with
  | nil =>
      have same : registry.touched entry (fun stats => stats) = registry := by
        rw [touched, Function.update_eq_self]
      exact same.symm ▸ Relation.ReflTransGen.refl
  | cons access rest ih =>
      rw [List.mem_cons, not_or] at plain still
      have one : Reaches index call
          (registry, .recording entry systemTime now (access :: (rest ++ updates))) _ :=
        access_reaches access entry systemTime now (rest ++ updates) registry
          (Ne.symm plain.1) (Ne.symm still.1)
      have others := ih (registry.touched entry (access.apply call now)) plain.2 still.2
      rw [touched_touched] at others
      exact one.trans others

theorem increment_reaches (accesses : List Update) (time : Option UInt64) (entry : Nat)
    (systemTime now : UInt64) (updates : List Update) (registry : SharedRegistry)
    (plain : Update.readSystemTime ∉ accesses) (still : Update.exchange ∉ accesses) :
    ∃ systemTime' now', Reaches index call
      (registry,
        .recording entry systemTime now (accesses ++ (Update.updateLastAccess ++ updates)))
      (registry.stamped entry (fun ended stats => (accesses.foldl (fun stats access =>
          access.apply call now stats) stats).updateLastAccess ended) time,
        .recording entry systemTime' now' updates) := by
  obtain ⟨systemTime', now', last⟩ := lastAccess_reaches time entry systemTime now updates
    (registry.touched entry fun stats => accesses.foldl (fun stats access =>
      access.apply call now stats) stats)
  rw [touched_stamped] at last
  exact ⟨systemTime', now',
    (accesses_reaches accesses entry systemTime now _ registry plain still).trans last⟩

theorem recording_reaches (times : MethodCallTimes) (entry : Nat) (registry : SharedRegistry)
    (rest : AtRest registry) (tracked : registry.methods.lookup call.method = some entry) :
    ∃ after systemTime now, Reaches index call (registry, .recording entry 0 0 Update.recording)
        (after, .recording entry systemTime now []) ∧
      after.view = ((registry.view.onMethod call.method MethodStats.incrementCall
        times.called).onMethod call.method (MethodStats.recordLatency call.latencyUs)
          times.recorded).onMethod call.method
            (if call.success then MethodStats.incrementSuccess else MethodStats.incrementFailure)
            times.settled ∧
      AtRest after := by
  let called := registry.stamped entry MethodStats.incrementCall times.called
  let timed := called.stamped entry (MethodStats.recordLatency call.latencyUs) times.recorded
  have calledRest : AtRest called := rest.stamped entry _ _
  have timedRest : AtRest timed := calledRest.stamped entry _ _
  obtain ⟨systemTime, now, calling⟩ := @increment_reaches index call [.callCount] times.called
    entry 0 0 (Update.recordLatency ++ Update.incrementOutcome) registry (by decide) (by decide)
  obtain ⟨systemTime, now, timing⟩ := @increment_reaches index call
    [.bin, .totalLatency, .sampleCount] times.recorded entry systemTime now
    Update.incrementOutcome called (by decide) (by decide)
  obtain ⟨systemTime, now, ending⟩ := @increment_reaches index call [.outcome] times.settled
    entry systemTime now [] timed (by decide) (by decide)
  refine ⟨_, systemTime, now, calling.trans (timing.trans ending), ?_, timedRest.stamped entry _ _⟩
  rw [stamped_view entry call.method _ _ _ timedRest tracked,
    stamped_view entry call.method _ _ _ calledRest tracked,
    stamped_view entry call.method _ _ _ rest tracked]
  congr 1
  funext now stats
  cases success : call.success <;> simp [Update.apply, success] <;> rfl

theorem call_reaches (cleanup : CleanupInput) (times : MethodCallTimes)
    (registry : SharedRegistry) (rest : AtRest registry) :
    ∃ after point, Reaches index call (registry, .incrementTotal) (after, point) ∧
      point.finished = true ∧ AtRest after ∧
      after.view = registry.view.perform
        (.recordMethodCall call.method call.latencyUs call.success cleanup times) := by
  obtain ⟨same, lock⟩ := counted_same call.success registry
  obtain ⟨cleaned, cleaning, cleanedView, cleanedRest⟩ := @cleanup_reaches index call cleanup _
    (rest.same same (lock.trans rest.unlocked))
  obtain ⟨entered, entry, entering, enteredView, enteredRest, tracked⟩ :=
    entry_reaches times.created cleaned cleanedRest
  obtain ⟨after, systemTime, now, recording, view, afterRest⟩ :=
    recording_reaches times entry entered enteredRest tracked
  have whole := (opening_reaches registry).trans (cleaning.trans (entering.trans recording))
  refine ⟨after, .recording entry systemTime now [], whole, rfl, afterRest, ?_⟩
  rw [view, enteredView, cleanedView, counted_view]
  rfl

end SharedRegistry

namespace ConcurrentMetrics

open SharedRegistry

theorem run_of_reaches {state : ConcurrentMetrics} {index : Nat} {active : ActiveCall}
    (here : state.calls[index]? = some active) {there : SharedRegistry × Point}
    (reached : Reaches index active.call (state.registry, active.point) there) :
    ∃ inputs, machine.run state inputs =
      { registry := there.1
        calls := state.calls.set index { active with point := there.2 } } := by
  obtain ⟨inside, found⟩ := List.getElem?_eq_some_iff.mp here
  induction reached with
  | refl =>
      refine ⟨[], ?_⟩
      rw [Machine.run_nil, ← found, List.set_getElem_self]
  | tail _ moved ih =>
      obtain ⟨inputs, ran⟩ := ih
      obtain ⟨input, stepped⟩ := moved
      refine ⟨inputs ++ [.advance index input], ?_⟩
      rw [Machine.run_append, ran, ← stepped]
      simp only [Machine.run_cons, Machine.run_nil, machine, step, List.getElem?_set_self inside,
        List.set_set]

structure LoneCall where
  call : MethodCall
  cleanup : CleanupInput
  times : MethodCallTimes

def LoneCall.operation (lone : LoneCall) : MetricsOperation :=
  .recordMethodCall lone.call.method lone.call.latencyUs lone.call.success lone.cleanup lone.times

theorem lone_calls_run (lones : List LoneCall) (state : ConcurrentMetrics)
    (quiescent : state.Quiescent) (rest : state.registry.AtRest) :
    ∃ inputs, (machine.run state inputs).Quiescent ∧
      (machine.run state inputs).registry.view =
        state.registry.view.record (lones.map LoneCall.operation) := by
  induction lones generalizing state with
  | nil => exact ⟨[], quiescent, rfl⟩
  | cons lone others ih =>
      let begun : ConcurrentMetrics :=
        { state with calls := state.calls ++ [⟨lone.call, .incrementTotal⟩] }
      obtain ⟨after, point, reached, finished, afterRest, view⟩ :=
        @call_reaches state.calls.length lone.call lone.cleanup lone.times state.registry rest
      have here : begun.calls[state.calls.length]? = some ⟨lone.call, .incrementTotal⟩ := by
        simp [begun]
      obtain ⟨inputs, ran⟩ := run_of_reaches here reached
      have placed : begun.calls.set state.calls.length ⟨lone.call, point⟩ =
          state.calls ++ [⟨lone.call, point⟩] := by
        simp [begun]
      rw [placed] at ran
      obtain ⟨later, quiet, ended⟩ := ih ⟨after, state.calls ++ [⟨lone.call, point⟩]⟩ (by
        intro active member
        obtain member | member := List.mem_append.mp member
        · exact quiescent active member
        · rw [List.mem_singleton.mp member]
          exact finished) afterRest
      have whole : machine.run state (.begin lone.call :: (inputs ++ later)) =
          machine.run ⟨after, state.calls ++ [⟨lone.call, point⟩]⟩ later := by
        rw [Machine.run_cons, Machine.run_append, ← ran]
        rfl
      refine ⟨.begin lone.call :: (inputs ++ later), ?_, ?_⟩
      · rw [whole]
        exact quiet
      · rw [whole, ended, view, List.map_cons, MetricsRegistry.record_cons]
        rfl

/-- Calls one after another are one of the runs of calls side by side. -/
theorem sequential_run (config : MetricsConfig) (clock : TimestampClock) (lones : List LoneCall) :
    ∃ inputs, (machine.run (withConfig config clock) inputs).Quiescent ∧
      (machine.run (withConfig config clock) inputs).registry.view =
        (MetricsRegistry.withConfig config clock).record (lones.map LoneCall.operation) :=
  lone_calls_run lones (withConfig config clock) nofun (withConfig_atRest config clock)

end ConcurrentMetrics

end MadRpc
