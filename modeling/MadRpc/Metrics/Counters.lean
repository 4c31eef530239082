import MadRpc.Metrics.Entries
import MadRpc.Shared.Tally

set_option autoImplicit false

namespace MadRpc

structure Counter where
  get : MethodStats → UInt64
  adds : MethodCall → Update → Nat
  fresh : ∀ now, get (.new now) = 0
  counts : ∀ call now (update : Update) stats,
    get (update.apply call now stats) = get stats + UInt64.ofNat (adds call update)

namespace Counter

def ofUpdate (get : MethodStats → UInt64) (counted : Update) (weight : MethodCall → Nat)
    (fresh : ∀ now, get (.new now) = 0)
    (adds : ∀ call now stats, get (counted.apply call now stats) =
      get stats + UInt64.ofNat (weight call))
    (spares : ∀ call now (update : Update) stats, update ≠ counted →
      get (update.apply call now stats) = get stats) : Counter where
  get := get
  adds call update := if update = counted then weight call else 0
  fresh := fresh
  counts call now update stats := by
    split
    next same => rw [same, adds]
    next other => exact (spares call now update stats other).trans (UInt64.add_zero _).symm

theorem outcome_spares {Value : Type} (get : MethodStats → Value) (call : MethodCall)
    (now : UInt64) (stats : MethodStats) (success : get stats.countSuccess = get stats)
    (failure : get stats.countFailure = get stats) :
    get (Update.outcome.apply call now stats) = get stats := by
  rw [Update.apply]
  split
  next => exact success
  next => exact failure

def callCount : Counter :=
  ofUpdate MethodStats.callCount .callCount (fun _ => 1) (fun _ => rfl) (fun _ _ _ => rfl)
    fun call now update stats other => by
      cases update with
      | callCount => exact absurd rfl other
      | outcome => exact outcome_spares MethodStats.callCount call now stats rfl rfl
      | _ => rfl

def successCount : Counter :=
  ofUpdate MethodStats.successCount .outcome (fun call => if call.success then 1 else 0)
    (fun _ => rfl)
    (fun call now stats => by
      rw [Update.apply]
      split
      next => rfl
      next => exact (UInt64.add_zero _).symm)
    fun call now update stats other => by
      cases update with
      | outcome => exact absurd rfl other
      | _ => rfl

def failureCount : Counter :=
  ofUpdate MethodStats.failureCount .outcome (fun call => if call.success then 0 else 1)
    (fun _ => rfl)
    (fun call now stats => by
      rw [Update.apply]
      split
      next => exact (UInt64.add_zero _).symm
      next => rfl)
    fun call now update stats other => by
      cases update with
      | outcome => exact absurd rfl other
      | _ => rfl

def sampleCount : Counter :=
  ofUpdate (fun stats => stats.latencies.sampleCount) .sampleCount (fun _ => 1) (fun _ => rfl)
    (fun _ _ _ => rfl)
    fun call now update stats other => by
      cases update with
      | sampleCount => exact absurd rfl other
      | outcome =>
          exact outcome_spares (fun stats => stats.latencies.sampleCount) call now stats rfl rfl
      | _ => rfl

theorem get_incrementBin (index counted : Fin NUM_HISTOGRAM_BINS) (histogram : LatencyHistogram) :
    (histogram.incrementBin counted).bins.get index =
      histogram.bins.get index + UInt64.ofNat (if counted = index then 1 else 0) := by
  have indexed (bins : Vector UInt64 NUM_HISTOGRAM_BINS) : bins.get index = bins[index.1] := rfl
  simp only [LatencyHistogram.incrementBin, indexed, Fin.getElem_fin, Vector.getElem_set,
    Fin.ext_iff]
  split
  next same =>
    simp only [same]
    rfl
  next => exact (UInt64.add_zero _).symm

theorem get_new_bins (index : Fin NUM_HISTOGRAM_BINS) (now : UInt64) :
    (MethodStats.new now).latencies.bins.get index = 0 :=
  Vector.getElem_replicate _

theorem bins_spared (index : Fin NUM_HISTOGRAM_BINS) (call : MethodCall) (now : UInt64)
    (update : Update) (stats : MethodStats) (other : update ≠ .bin) :
    (update.apply call now stats).latencies.bins.get index = stats.latencies.bins.get index := by
  cases update with
  | bin => exact absurd rfl other
  | outcome =>
      exact outcome_spares (fun stats => stats.latencies.bins.get index) call now stats rfl rfl
  | _ => rfl

def bin (index : Fin NUM_HISTOGRAM_BINS) : Counter :=
  ofUpdate (fun stats => stats.latencies.bins.get index) .bin
    (fun call => if LatencyHistogram.binOf call.latencyUs = index then 1 else 0)
    (get_new_bins index) (fun _ _ stats => get_incrementBin index _ stats.latencies)
    (bins_spared index)

def owed (counter : Counter) (call : MethodCall) (updates : List Update) : Nat :=
  tally (counter.adds call) updates

def added (counter : Counter) (entry : Nat) (active : ActiveCall) : Nat :=
  match active.point.program with
  | some (own, rest) =>
      if own = entry then
        counter.owed active.call Update.recording - counter.owed active.call rest
      else 0
  | none => 0

theorem owed_le_of_suffix (counter : Counter) (call : MethodCall) {rest updates : List Update}
    (suffix : rest <:+ updates) : counter.owed call rest ≤ counter.owed call updates := by
  obtain ⟨made, rfl⟩ := suffix
  rw [owed, owed, tally_append]
  exact Nat.le_add_left _ _

theorem owed_recording {get : MethodStats → UInt64} {counted : Update} {weight : MethodCall → Nat}
    {fresh adds spares} (once : Update.recording.count counted = 1) (call : MethodCall) :
    (ofUpdate get counted weight fresh adds spares).owed call Update.recording = weight call := by
  rw [owed, ofUpdate, tally_const_of_mem, once, Nat.one_mul]

theorem owed_callCount (call : MethodCall) : callCount.owed call Update.recording = 1 :=
  owed_recording rfl call

theorem owed_successCount (call : MethodCall) :
    successCount.owed call Update.recording = if call.success then 1 else 0 :=
  owed_recording rfl call

theorem owed_failureCount (call : MethodCall) :
    failureCount.owed call Update.recording = if call.success then 0 else 1 :=
  owed_recording rfl call

theorem owed_sampleCount (call : MethodCall) : sampleCount.owed call Update.recording = 1 :=
  owed_recording rfl call

theorem owed_bin (index : Fin NUM_HISTOGRAM_BINS) (call : MethodCall) :
    (bin index).owed call Update.recording =
      if LatencyHistogram.binOf call.latencyUs = index then 1 else 0 :=
  owed_recording rfl call

theorem added_of_program {counter : Counter} {entry own : Nat} {active : ActiveCall}
    {rest : List Update} (program : active.point.program = some (own, rest)) :
    counter.added entry active =
      if own = entry then
        counter.owed active.call Update.recording - counter.owed active.call rest
      else 0 := by
  rw [added, program]

theorem added_of_idle {counter : Counter} {entry : Nat} {active : ActiveCall}
    (program : active.point.program = none) : counter.added entry active = 0 := by
  rw [added, program]

end Counter

namespace ConcurrentMetrics

open SharedRegistry

def Balanced (counter : Counter) (state : ConcurrentMetrics) : Prop :=
  ∀ entry < state.registry.allocated, counter.get (state.registry.stats entry) =
    UInt64.ofNat (tally (counter.added entry) state.calls)

theorem tally_moved {state : ConcurrentMetrics} {index : Nat} {active : ActiveCall}
    (here : state.calls[index]? = some active) (next : Point) (counter : Counter) (entry : Nat)
    (same : counter.added entry { active with point := next } = counter.added entry active) :
    tally (counter.added entry) (state.calls.set index { active with point := next }) =
      tally (counter.added entry) state.calls :=
  tally_set_add here 0 same

theorem effect_balanced {owner : Nat → String} {state : ConcurrentMetrics} {active : ActiveCall}
    {after : SharedRegistry} {next : Point} (owned : Owned owner state) (index : Nat)
    (here : state.calls[index]? = some active)
    (effect : Effect active.call state.registry active.point after next) (counter : Counter)
    (balanced : Balanced counter state) :
    Balanced counter
      { registry := after, calls := state.calls.set index { active with point := next } } := by
  intro entry inside
  dsimp only at inside ⊢
  cases effect with
  | elsewhere methods stats allocated pointer program =>
      rw [stats, tally_moved here next counter entry (by rw [Counter.added, program]; rfl)]
      exact balanced entry (allocated ▸ inside)
  | found own point known same =>
      subst same
      rw [tally_moved here _ counter entry (by
        rw [Counter.added_of_idle rfl, Counter.added_of_idle (by rw [point]; rfl)])]
      exact balanced entry inside
  | created systemTime now point methods stats allocated =>
      rw [stats, tally_moved here _ counter entry (by
        rw [Counter.added_of_idle rfl, Counter.added_of_idle (by rw [point]; rfl)])]
      by_cases new : entry = state.registry.allocated
      · -- No call can have a reference to an entry that has just been allocated.
        have none : tally (counter.added entry) state.calls = 0 := by
          refine tally_eq_zero fun other member => ?_
          cases program : other.point.program with
          | none => exact Counter.added_of_idle program
          | some running =>
              obtain ⟨own, rest⟩ := running
              have holds := owned.held other member
              have older := (holds.pointer own (holds.program own rest program).1).1
              rw [Counter.added_of_program program, if_neg (new ▸ Nat.ne_of_lt older)]
        rw [new, Function.update_self, counter.fresh, ← new, none]
        rfl
      · rw [Function.update_of_ne new]
        exact balanced entry (by omega)
  | left own point same =>
      rw [same.stats, tally_moved here _ counter entry (by
        rw [Counter.added_of_program rfl, Nat.sub_self, ite_self,
          Counter.added_of_idle (by rw [point]; rfl)])]
      exact balanced entry (same.allocated ▸ inside)
  | updated own systemTime now systemTime' now' update rest point methods stats allocated =>
      have before : active.point.program = some (own, update :: rest) := by
        rw [point]
        rfl
      have mine := owned.held active (List.mem_of_getElem? here)
      have suffix := (mine.program own (update :: rest) before).2
      have smaller := counter.owed_le_of_suffix active.call suffix
      have spent : counter.owed active.call (update :: rest) =
          counter.adds active.call update + counter.owed active.call rest := rfl
      have value := balanced entry (allocated ▸ inside)
      rw [stats]
      by_cases same : own = entry
      · subst same
        rw [Function.update_self, counter.counts, value, ← UInt64.ofNat_add]
        rw [tally_set_add here (counter.adds active.call update)]
        rw [Counter.added_of_program rfl, Counter.added_of_program before, if_pos rfl, if_pos rfl]
        dsimp only
        omega
      · rw [Function.update_of_ne (Ne.symm same), tally_moved here _ counter entry (by
          rw [Counter.added_of_program rfl, Counter.added_of_program before, if_neg same,
            if_neg same])]
        exact value

theorem step_balanced (state : ConcurrentMetrics) (input : ConcurrentInput)
    (owned : ∃ owner, Owned owner state) (counter : Counter)
    (balanced : Balanced counter state) : Balanced counter (state.step input) := by
  obtain ⟨owner, owned⟩ := owned
  have stepped := step_cases state input
  generalize state.step input = next at stepped
  cases stepped with
  | began call =>
      intro entry inside
      rw [tally_concat, Counter.added_of_idle rfl, Nat.add_zero]
      exact balanced entry inside
  | unknown => exact balanced
  | advanced index input active here =>
      exact effect_balanced owned index here (advance_effect index active.call input _ _) counter
        balanced

end ConcurrentMetrics

end MadRpc
