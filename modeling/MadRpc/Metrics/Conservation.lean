import Mathlib.Algebra.BigOperators.Fin
import MadRpc.Metrics.Counters

set_option autoImplicit false

namespace MadRpc

namespace Point

def totalled : Point → Nat
  | incrementTotal => 0
  | _ => 1

def settled : Point → Nat
  | incrementTotal | incrementOutcome => 0
  | _ => 1

end Point

namespace SharedRegistry

structure SameTotals (before after : SharedRegistry) : Prop where
  total : after.totalRequests = before.totalRequests
  successful : after.successfulRequests = before.successfulRequests
  failed : after.failedRequests = before.failedRequests

theorem retain_totals (registry : SharedRegistry) (now : UInt64) (name : String) :
    SameTotals registry (registry.retain now name) := by
  unfold retain
  split
  next => split <;> exact ⟨rfl, rfl, rfl⟩
  next => exact ⟨rfl, rfl, rfl⟩

theorem update_totals (call : MethodCall) (input : Surroundings) (registry : SharedRegistry)
    (entry : Nat) (systemTime now : UInt64) (next : Update) :
    SameTotals registry (registry.update call input entry systemTime now next).1 := by
  cases next <;> exact ⟨rfl, rfl, rfl⟩

theorem advance_totals (index : Nat) (call : MethodCall) (input : Surroundings)
    (registry : SharedRegistry) (point : Point) (settled : point.settled = 1) :
    SameTotals registry (registry.advance index call input point).1 ∧
      (registry.advance index call input point).2.settled = 1 := by
  cases point with
  | incrementTotal | incrementOutcome => cases settled
  | cleanupTime | cleanupExchange _ | unlockCleanup _ | cleaningNodes _ | creatingTime | creating _
  | leaving _ => exact ⟨⟨rfl, rfl, rfl⟩, rfl⟩
  | countCleanup | lockCleanup _ | lockEntry | limiting _ | entering =>
      simp only [advance]
      split <;> exact ⟨⟨rfl, rfl, rfl⟩, rfl⟩
  | retaining now names =>
      cases names with
      | nil => exact ⟨⟨rfl, rfl, rfl⟩, rfl⟩
      | cons name names => exact ⟨retain_totals registry now name, rfl⟩
  | ranking _ names _ | removing _ names => cases names <;> exact ⟨⟨rfl, rfl, rfl⟩, rfl⟩
  | recording entry systemTime now rest =>
      cases rest with
      | nil => exact ⟨⟨rfl, rfl, rfl⟩, rfl⟩
      | cons next rest =>
          exact ⟨update_totals call input registry entry systemTime now next, rfl⟩

end SharedRegistry

namespace ActiveCall

def total (active : ActiveCall) : Nat :=
  active.point.totalled

def successful (active : ActiveCall) : Nat :=
  if active.call.success then active.point.settled else 0

def failed (active : ActiveCall) : Nat :=
  if active.call.success then 0 else active.point.settled

end ActiveCall

namespace ConcurrentMetrics

open SharedRegistry

structure Totals (state : ConcurrentMetrics) : Prop where
  total : state.registry.totalRequests = UInt64.ofNat (tally ActiveCall.total state.calls)
  successful : state.registry.successfulRequests =
    UInt64.ofNat (tally ActiveCall.successful state.calls)
  failed : state.registry.failedRequests = UInt64.ofNat (tally ActiveCall.failed state.calls)

structure Adds (before : SharedRegistry) (active : ActiveCall) (after : SharedRegistry)
    (next : Point) (made won lost : Nat) : Prop where
  totalRequests : after.totalRequests = before.totalRequests + UInt64.ofNat made
  successfulRequests : after.successfulRequests = before.successfulRequests + UInt64.ofNat won
  failedRequests : after.failedRequests = before.failedRequests + UInt64.ofNat lost
  total : ActiveCall.total { active with point := next } = active.total + made
  successful : ActiveCall.successful { active with point := next } = active.successful + won
  failed : ActiveCall.failed { active with point := next } = active.failed + lost

theorem Totals.moved {state : ConcurrentMetrics} {active : ActiveCall} {after : SharedRegistry}
    {next : Point} {made won lost : Nat} (totals : Totals state) (index : Nat)
    (here : state.calls[index]? = some active)
    (adds : Adds state.registry active after next made won lost) :
    Totals { registry := after, calls := state.calls.set index { active with point := next } } where
  total := by
    rw [tally_set_add here made adds.total, UInt64.ofNat_add, ← totals.total]
    exact adds.totalRequests
  successful := by
    rw [tally_set_add here won adds.successful, UInt64.ofNat_add, ← totals.successful]
    exact adds.successfulRequests
  failed := by
    rw [tally_set_add here lost adds.failed, UInt64.ofNat_add, ← totals.failed]
    exact adds.failedRequests

theorem totalled_of_settled {point : Point} (settled : point.settled = 1) :
    point.totalled = 1 := by
  cases point <;> first | rfl | cases settled

theorem advance_adds (index : Nat) (active : ActiveCall) (input : Surroundings)
    (registry : SharedRegistry) :
    ∃ made won lost, Adds registry active
      (registry.advance index active.call input active.point).1
      (registry.advance index active.call input active.point).2 made won lost := by
  obtain ⟨call, point⟩ := active
  by_cases settled : point.settled = 1
  · obtain ⟨same, after⟩ := advance_totals index call input registry point settled
    refine ⟨0, 0, 0, ?_, ?_, ?_, ?_, ?_, ?_⟩
    · exact same.total.trans (UInt64.add_zero _).symm
    · exact same.successful.trans (UInt64.add_zero _).symm
    · exact same.failed.trans (UInt64.add_zero _).symm
    · exact (totalled_of_settled after).trans (totalled_of_settled settled).symm
    · simp only [ActiveCall.successful, settled, after, Nat.add_zero]
    · simp only [ActiveCall.failed, settled, after, Nat.add_zero]
  · cases point with
    | incrementTotal =>
        exact ⟨1, 0, 0, rfl, (UInt64.add_zero _).symm, (UInt64.add_zero _).symm, rfl, rfl, rfl⟩
    | incrementOutcome =>
        cases outcome : call.success with
        | true =>
            refine ⟨0, 1, 0, ?_, ?_, ?_, rfl, ?_, ?_⟩ <;>
              simp [SharedRegistry.advance, ActiveCall.successful, ActiveCall.failed, outcome,
                Point.settled]
        | false =>
            refine ⟨0, 0, 1, ?_, ?_, ?_, rfl, ?_, ?_⟩ <;>
              simp [SharedRegistry.advance, ActiveCall.successful, ActiveCall.failed, outcome,
                Point.settled]
    | _ => exact absurd rfl settled

theorem step_totals (state : ConcurrentMetrics) (input : ConcurrentInput)
    (totals : Totals state) : Totals (state.step input) := by
  have stepped := step_cases state input
  generalize state.step input = next at stepped
  cases stepped with
  | began call =>
      obtain ⟨total, successful, failed⟩ := totals
      constructor
      · rw [tally_concat, total]
        rfl
      · rw [tally_concat, successful]
        simp [ActiveCall.successful, Point.settled]
      · rw [tally_concat, failed]
        simp [ActiveCall.failed, Point.settled]
  | unknown => exact totals
  | advanced index input active here =>
      obtain ⟨_, _, _, adds⟩ := advance_adds index active input state.registry
      exact totals.moved index here adds

structure Sound (state : ConcurrentMetrics) : Prop where
  locked : state.Locked
  owned : ∃ owner, Owned owner state
  balanced : ∀ counter, Balanced counter state
  totals : Totals state

theorem withConfig_sound (config : MetricsConfig) (clock : TimestampClock) :
    Sound (withConfig config clock) where
  locked := nofun
  owned := ⟨fun _ => "", nofun, nofun⟩
  balanced := nofun
  totals := ⟨rfl, rfl, rfl⟩

theorem step_sound (state : ConcurrentMetrics) (input : ConcurrentInput) (sound : Sound state) :
    Sound (state.step input) where
  locked := step_locked state input sound.locked
  owned := step_owned state input sound.owned
  balanced counter := step_balanced state input sound.owned counter (sound.balanced counter)
  totals := step_totals state input sound.totals

theorem run_sound (config : MetricsConfig) (clock : TimestampClock)
    (inputs : List ConcurrentInput) : Sound (machine.run (withConfig config clock) inputs) :=
  machine.run_invariant Sound step_sound _ inputs (withConfig_sound config clock)

def NeverEvicted (method : String) (config : MetricsConfig) (clock : TimestampClock)
    (inputs : List ConcurrentInput) : Prop :=
  machine.EachStep (Retains method) (withConfig config clock) inputs

instance (method : String) (config : MetricsConfig) (clock : TimestampClock)
    (inputs : List ConcurrentInput) : Decidable (NeverEvicted method config clock inputs) :=
  inferInstanceAs (Decidable (machine.EachStep _ _ _))

theorem run_single (method : String) (config : MetricsConfig) (clock : TimestampClock)
    (inputs : List ConcurrentInput) (kept : NeverEvicted method config clock inputs) :
    Single method (machine.run (withConfig config clock) inputs) := by
  have both := machine.run_invariant_of_steps (fun state => Sound state ∧ Single method state)
    (Retains method) (fun state input holds retains => ⟨step_sound state input holds.1,
      step_single state input holds.1.locked method retains holds.2⟩)
    (withConfig config clock) inputs ⟨withConfig_sound config clock, nofun⟩ kept
  exact both.2

def begun (inputs : List ConcurrentInput) : List MethodCall :=
  inputs.filterMap fun
    | .begin call => some call
    | .advance _ _ => none

theorem step_calls (state : ConcurrentMetrics) (input : ConcurrentInput) :
    (state.step input).calls.map ActiveCall.call =
      state.calls.map ActiveCall.call ++ begun [input] := by
  have stepped := step_cases state input
  generalize state.step input = next at stepped
  cases stepped with
  | began call => exact List.map_append
  | unknown => exact (List.append_nil _).symm
  | advanced index input active here =>
      have named : (state.calls.map ActiveCall.call)[index]? = some active.call := by
        rw [List.getElem?_map, here]
        rfl
      have inside := (List.getElem?_eq_some_iff.mp named).1
      rw [List.map_set, ← (List.getElem?_eq_some_iff.mp named).2, List.set_getElem_self inside]
      exact (List.append_nil _).symm

theorem run_calls (state : ConcurrentMetrics) (inputs : List ConcurrentInput) :
    (machine.run state inputs).calls.map ActiveCall.call =
      state.calls.map ActiveCall.call ++ begun inputs := by
  induction inputs generalizing state with
  | nil => exact (List.append_nil _).symm
  | cons input rest ih =>
      have here := step_calls state input
      have both : begun (input :: rest) = begun [input] ++ begun rest := by
        cases input <;> rfl
      rw [Machine.run_cons, ih, both, ← List.append_assoc, ← here]
      rfl

end ConcurrentMetrics

def Point.finished : Point → Bool
  | recording _ _ _ [] => true
  | _ => false

namespace ConcurrentMetrics

def Quiescent (state : ConcurrentMetrics) : Prop :=
  ∀ active ∈ state.calls, active.point.finished = true

instance (state : ConcurrentMetrics) : Decidable state.Quiescent :=
  inferInstanceAs (Decidable (∀ active ∈ state.calls, _))

theorem finished_program {point : Point} (finished : point.finished = true) :
    ∃ entry, point.pointer = some entry ∧ point.program = some (entry, []) := by
  cases point with
  | recording entry systemTime now rest =>
      cases rest with
      | nil => exact ⟨entry, rfl, rfl⟩
      | cons => cases finished
  | _ => cases finished

def owedBy (counter : Counter) (method : String) (call : MethodCall) : Nat :=
  if call.method = method then counter.owed call Update.recording else 0

theorem tracked_counter {state : ConcurrentMetrics} (sound : Sound state)
    (quiescent : state.Quiescent) (method : String) (single : Single method state)
    (stats : MethodStats) (tracked : state.registry.tracked method = some stats)
    (counter : Counter) :
    counter.get stats =
      UInt64.ofNat (tally (owedBy counter method) (state.calls.map ActiveCall.call)) := by
  obtain ⟨owner, owned⟩ := sound.owned
  obtain ⟨entry, known, rfl⟩ := Option.map_eq_some_iff.mp tracked
  obtain ⟨inside, owns⟩ := owned.tracked method entry known
  rw [sound.balanced counter entry inside, tally_map]
  refine congrArg UInt64.ofNat (tally_congr fun active member => ?_)
  obtain ⟨own, pointer, program⟩ := finished_program (quiescent active member)
  have named := ((owned.held active member).pointer own pointer).2
  rw [Counter.added_of_program program, owedBy]
  by_cases called : active.call.method = method
  · have same : own = entry :=
      Option.some.inj ((single active member called own pointer).symm.trans known)
    rw [if_pos same, if_pos called]
    rfl
  · have other : own ≠ entry := by
      rintro rfl
      exact called (named.symm.trans owns)
    rw [if_neg other, if_neg called]

structure Conserved (stats : MethodStats) (calls : Nat) : Prop where
  callCount : stats.callCount.toNat = calls
  outcomes : stats.successCount.toNat + stats.failureCount.toNat = calls
  samples : stats.latencies.sampleCount.toNat = calls
  bins : ∑ bin : Fin NUM_HISTOGRAM_BINS, (stats.latencies.bins.get bin).toNat = calls

theorem toNat_tally {Item : Type} {weight : Item → Nat} {items : List Item}
    (few : items.length < 2 ^ 64) (atMost : ∀ item ∈ items, weight item ≤ 1) :
    (UInt64.ofNat (tally weight items)).toNat = tally weight items := by
  rw [UInt64.toNat_ofNat']
  exact Nat.mod_eq_of_lt (Nat.lt_of_le_of_lt (tally_le_length items atMost) few)

theorem conserved_of_counters (method : String) (stats : MethodStats) (calls : List MethodCall)
    (few : calls.length < 2 ^ 64)
    (counted : ∀ counter : Counter,
      counter.get stats = UInt64.ofNat (tally (owedBy counter method) calls)) :
    Conserved stats (calls.countP fun call => call.method = method) := by
  have made : tally (fun call : MethodCall => if call.method = method then 1 else 0) calls =
      calls.countP fun call => call.method = method := by
    simpa only [decide_eq_true_eq] using
      tally_indicator (fun call : MethodCall => decide (call.method = method)) calls
  have exactly (counter : Counter) (weight : MethodCall → Nat)
      (owed : ∀ call, counter.owed call Update.recording = weight call)
      (atMost : ∀ call, weight call ≤ 1) :
      (counter.get stats).toNat =
        tally (fun call => if call.method = method then weight call else 0) calls := by
    have weighed : owedBy counter method =
        fun call => if call.method = method then weight call else 0 := by
      funext call
      rw [owedBy, owed]
    rw [counted counter, weighed, toNat_tally few]
    intro call _
    split
    next => exact atMost call
    next => exact Nat.zero_le 1
  constructor
  · exact (exactly Counter.callCount _ Counter.owed_callCount fun _ => Nat.le_refl 1).trans made
  · have successes := exactly Counter.successCount _ Counter.owed_successCount fun call => by
      split <;> decide
    have failures := exactly Counter.failureCount _ Counter.owed_failureCount fun call => by
      split <;> decide
    refine (congrArg₂ (· + ·) successes failures).trans ?_
    rw [← tally_add, ← made]
    refine tally_congr fun call _ => ?_
    cases call.success <;> simp
  · exact (exactly Counter.sampleCount _ Counter.owed_sampleCount fun _ =>
      Nat.le_refl 1).trans made
  · have each (bin : Fin NUM_HISTOGRAM_BINS) :=
      exactly (Counter.bin bin) _ (Counter.owed_bin bin) fun call => by split <;> decide
    refine (Finset.sum_congr rfl fun bin _ => each bin).trans ?_
    rw [sum_tally, ← made]
    -- Of the bins exactly one is that of the latency.
    refine tally_congr fun call _ => ?_
    by_cases called : call.method = method <;> simp [called]

theorem finished_total {active : ActiveCall} (finished : active.point.finished = true) :
    active.total = 1 ∧ active.successful + active.failed = 1 := by
  obtain ⟨call, point⟩ := active
  cases point with
  | recording entry systemTime now rest =>
      refine ⟨rfl, ?_⟩
      cases success : call.success <;>
        simp [ActiveCall.successful, ActiveCall.failed, success, Point.settled]
  | _ => cases finished

theorem metrics_conserved (config : MetricsConfig) (clock : TimestampClock)
    (inputs : List ConcurrentInput)
    (quiescent : (machine.run (withConfig config clock) inputs).Quiescent)
    (few : (begun inputs).length < 2 ^ 64) :
    let registry := (machine.run (withConfig config clock) inputs).registry
    registry.totalRequests.toNat = (begun inputs).length ∧
      registry.successfulRequests.toNat + registry.failedRequests.toNat =
        (begun inputs).length ∧
      ∀ method stats, registry.tracked method = some stats →
        NeverEvicted method config clock inputs →
        Conserved stats ((begun inputs).countP fun call => call.method = method) := by
  intro registry
  have sound := run_sound config clock inputs
  have calls : (machine.run (withConfig config clock) inputs).calls.map ActiveCall.call =
      begun inputs := run_calls _ inputs
  have number : (machine.run (withConfig config clock) inputs).calls.length =
      (begun inputs).length := by rw [← calls, List.length_map]
  have whole active (member : active ∈ (machine.run (withConfig config clock) inputs).calls) :=
    finished_total (quiescent active member)
  obtain ⟨total, successful, failed⟩ := sound.totals
  refine ⟨?_, ?_, fun method stats tracked kept => ?_⟩
  · rw [total, toNat_tally (number ▸ few) fun active member => Nat.le_of_eq (whole active member).1,
      tally_eq_length fun active member => (whole active member).1, number]
  · rw [successful, failed, toNat_tally (number ▸ few), toNat_tally (number ▸ few), ← tally_add,
      tally_eq_length fun active member => (whole active member).2, number]
    · intro active member
      have both := (whole active member).2
      omega
    · intro active member
      have both := (whole active member).2
      omega
  · have counter := tracked_counter sound quiescent method
      (run_single method config clock inputs kept) stats tracked
    rw [calls] at counter
    exact conserved_of_counters method stats (begun inputs) few counter

/-! Two calls in step, of which one waits for the other to create the entry. -/

def twoCalls : List ConcurrentInput :=
  [.begin ⟨"sum", 7, true⟩, .begin ⟨"sum", 1500, false⟩] ++
    (List.replicate 35 [.advance 0 ⟨some 9, [], []⟩, .advance 1 ⟨none, [], []⟩]).flatten

theorem twoCalls_conserved :
    ∃ stats, (machine.run (withConfig .default .initial) twoCalls).registry.tracked "sum" =
      some stats ∧ Conserved stats 2 := by
  obtain ⟨-, -, conserved⟩ := metrics_conserved .default .initial twoCalls (by decide +kernel)
    (by decide)
  have present : ((machine.run (withConfig .default .initial) twoCalls).registry.tracked
      "sum").isSome = true := by decide +kernel
  obtain ⟨stats, tracked⟩ := Option.isSome_iff_exists.mp present
  exact ⟨stats, tracked, conserved "sum" stats tracked (by decide +kernel)⟩

end ConcurrentMetrics

end MadRpc
