import MadRpc.Metrics.Conservation
import MadRpc.Metrics.TimeToLive

set_option autoImplicit false

/-!
# Evictions

Beside the calls of `record_method_call`, with the cleanups they run, others touch the registry:
`record_node_request` counts towards the next cleanup and runs cleanups as well, and every
timestamp of the process comes from the same clock.
-/

namespace MadRpc

def Point.cleaning : Point → Bool
  | lockCleanup _ | retaining _ _ | limiting _ | ranking _ _ _ | removing _ _
  | unlockCleanup _ => true
  | _ => false

namespace SharedRegistry

/-- The next step of a call at this point drops the entry of the method, as stale or as one of
the least recently used. -/
def evicts (method : String) (registry : SharedRegistry) : Point → Bool
  | .retaining now (name :: _) =>
      decide (name = method) && match registry.tracked name with
        | some stats =>
            !decide (saturatingSub now stats.lastAccessMs < registry.config.methodTtlSecs * 1000)
        | none => false
  | .removing _ (name :: _) => decide (name = method)
  | _ => false

theorem evicts_of_not_cleaning {method : String} {registry : SharedRegistry} {point : Point}
    (quiet : point.cleaning = false) : registry.evicts method point = false := by
  cases point <;> first | rfl | cases quiet

theorem evicts_lookup {method : String} {registry : SharedRegistry} {point : Point}
    (evicted : registry.evicts method point = true) (index : Nat) (call : MethodCall)
    (input : Surroundings) :
    (registry.advance index call input point).1.methods.lookup method = none := by
  cases point with
  | retaining now names =>
      cases names with
      | nil => cases evicted
      | cons name names =>
          rw [evicts, Bool.and_eq_true, decide_eq_true_iff] at evicted
          obtain ⟨rfl, stale⟩ := evicted
          cases tracked : registry.tracked name with
          | none =>
              rw [tracked] at stale
              cases stale
          | some stats =>
              simp only [tracked, Bool.not_eq_true', decide_eq_false_iff_not] at stale
              simp only [advance, retain, tracked, if_neg stale]
              exact AList.lookup_erase _ _
  | removing now names =>
      cases names with
      | nil => cases evicted
      | cons name names =>
          rw [evicts, decide_eq_true_iff] at evicted
          subst evicted
          exact AList.lookup_erase _ _
  | _ => cases evicted

theorem lookup_of_spared {method : String} {registry : SharedRegistry} {point : Point}
    (spared : registry.evicts method point = false) (index : Nat) (call : MethodCall)
    (input : Surroundings) (present : registry.methods.lookup method ≠ none) :
    (registry.advance index call input point).1.methods.lookup method ≠ none := by
  cases point with
  | incrementTotal | incrementOutcome | countCleanup | cleanupTime | cleanupExchange _
  | limiting _ | unlockCleanup _ | cleaningNodes _ | entering | creatingTime | leaving _ =>
      simp only [advance]
      first | exact present | (split <;> exact present)
  | lockCleanup _ | lockEntry =>
      simp only [advance]
      split <;> exact present
  | retaining now names =>
      cases names with
      | nil => exact present
      | cons name names =>
          simp only [advance, retain]
          split
          next stats tracked =>
            split
            next => exact present
            next stale =>
              have different : method ≠ name := by
                rintro rfl
                simp [evicts, tracked, stale] at spared
              rwa [AList.lookup_erase_ne different]
          next => exact present
  | ranking _ names _ => cases names <;> exact present
  | removing now names =>
      cases names with
      | nil => exact present
      | cons name names =>
          have different : method ≠ name := by
            rintro rfl
            simp [evicts] at spared
          simp only [advance]
          rwa [AList.lookup_erase_ne different]
  | creating systemTime =>
      simp only [advance]
      by_cases same : method = call.method
      · rw [same, AList.lookup_insert]
        exact Option.some_ne_none _
      · rwa [AList.lookup_insert_ne same]
  | recording entry systemTime now rest =>
      cases rest with
      | nil => exact present
      | cons next rest =>
          have same := (update_same call input registry entry systemTime now next).1
          simp only [advance]
          rwa [same]

/-- A step of something other than a call of `record_method_call`. -/
inductive OutsideStep where
  | countCleanup
  -- All of the cleanup of the methods, with the timestamp taken before it.
  | cleanup (now : UInt64) (methodOrder : List String)
  | timestamp (time : Option UInt64)

def cleanMethods (now : UInt64) (methodOrder : List String) (registry : SharedRegistry) :
    AList fun _ : String => Nat :=
  Cleanup.clean (fun entry => (registry.stats entry).lastAccessMs) now
    (registry.config.methodTtlSecs * 1000) registry.config.maxMethods methodOrder registry.methods

def outside (registry : SharedRegistry) : OutsideStep → SharedRegistry
  | .countCleanup => { registry with cleanupCounter := registry.cleanupCounter + 1 }
  | .cleanup now methodOrder =>
      -- It waits for the lock.
      if registry.methodsLock = none then
        { registry with methods := registry.cleanMethods now methodOrder }
      else registry
  | .timestamp time =>
      { registry with clock := (registry.clock.getMonotonicTimestamp time).1 }

def outsideEvicts (method : String) (registry : SharedRegistry) : OutsideStep → Bool
  | .cleanup now methodOrder =>
      decide (registry.methodsLock = none) &&
        ((registry.cleanMethods now methodOrder).lookup method).isNone
  | _ => false

structure Outside (before after : SharedRegistry) : Prop where
  methods : ∀ method entry, after.methods.lookup method = some entry →
    before.methods.lookup method = some entry
  locked : before.methodsLock ≠ none → after.methods = before.methods
  lock : after.methodsLock = before.methodsLock
  stats : after.stats = before.stats
  allocated : after.allocated = before.allocated
  totals : SameTotals before after

theorem outside_outside (registry : SharedRegistry) (step : OutsideStep) :
    Outside registry (registry.outside step) := by
  cases step with
  | countCleanup | timestamp time =>
      exact ⟨fun _ _ found => found, fun _ => rfl, rfl, rfl, rfl, rfl, rfl, rfl⟩
  | cleanup now methodOrder =>
      simp only [outside]
      split
      next free =>
        exact ⟨Cleanup.lookup_of_clean _ _ _ _ _ _, fun taken => absurd free taken, rfl, rfl, rfl,
          rfl, rfl, rfl⟩
      next => exact ⟨fun _ _ found => found, fun _ => rfl, rfl, rfl, rfl, rfl, rfl, rfl⟩

theorem outside_evicted {method : String} {registry : SharedRegistry} {step : OutsideStep}
    (evicted : registry.outsideEvicts method step = true) :
    (registry.outside step).methods.lookup method = none := by
  cases step with
  | cleanup now methodOrder =>
      rw [outsideEvicts, Bool.and_eq_true, decide_eq_true_iff, Option.isNone_iff_eq_none] at evicted
      simp only [outside, if_pos evicted.1]
      exact evicted.2
  | countCleanup | timestamp time => cases evicted

theorem outside_spared {method : String} {registry : SharedRegistry} {step : OutsideStep}
    (spared : registry.outsideEvicts method step = false)
    (present : registry.methods.lookup method ≠ none) :
    (registry.outside step).methods.lookup method ≠ none := by
  cases step with
  | countCleanup | timestamp time => exact present
  | cleanup now methodOrder =>
      simp only [outside]
      split
      next free =>
        intro gone
        simp [outsideEvicts, free, gone] at spared
      next => exact present

end SharedRegistry

inductive MetricsInput where
  | call (input : ConcurrentInput)
  | outside (step : SharedRegistry.OutsideStep)

namespace ConcurrentMetrics

open SharedRegistry

def take (state : ConcurrentMetrics) : MetricsInput → ConcurrentMetrics
  | .call input => state.step input
  | .outside step => { state with registry := state.registry.outside step }

def interleaved : Machine ConcurrentMetrics MetricsInput Unit where
  step state input := (state.take input, ())

def evicts (method : String) (state : ConcurrentMetrics) : MetricsInput → Bool
  | .call (.begin _) => false
  | .call (.advance index _) =>
      match state.calls[index]? with
      | some active => state.registry.evicts method active.point
      | none => false
  | .outside step => state.registry.outsideEvicts method step

def cleaning (state : ConcurrentMetrics) : MetricsInput → Bool
  | .call (.advance index _) =>
      match state.calls[index]? with
      | some active => active.point.cleaning
      | none => false
  | .outside (.cleanup _ _) => true
  | _ => false

theorem evicts_of_quiet {method : String} {state : ConcurrentMetrics} {input : MetricsInput}
    (quiet : state.cleaning input = false) : state.evicts method input = false := by
  cases input with
  | call input =>
      cases input with
      | begin call => rfl
      | advance index input =>
          cases here : state.calls[index]? with
          | none => simp only [evicts, here]
          | some cleaner =>
              simp only [cleaning, here] at quiet
              simp only [evicts, here]
              exact evicts_of_not_cleaning quiet
  | outside step =>
      cases step with
      | cleanup => cases quiet
      | countCleanup | timestamp => rfl

theorem take_evicted {method : String} {state : ConcurrentMetrics} {input : MetricsInput}
    (evicted : state.evicts method input = true) :
    (state.take input).registry.methods.lookup method = none := by
  cases input with
  | call input =>
      cases input with
      | begin call => cases evicted
      | advance index own =>
          cases here : state.calls[index]? with
          | none =>
              simp only [evicts, here] at evicted
              cases evicted
          | some active =>
              simp only [evicts, here] at evicted
              simp only [take, step, here]
              exact evicts_lookup evicted index active.call own
  | outside step => exact outside_evicted evicted

theorem take_spared {method : String} {state : ConcurrentMetrics} {input : MetricsInput}
    (spared : state.evicts method input = false)
    (present : state.registry.methods.lookup method ≠ none) :
    (state.take input).registry.methods.lookup method ≠ none := by
  cases input with
  | call input =>
      cases input with
      | begin call => exact present
      | advance index own =>
          cases here : state.calls[index]? with
          | none =>
              simp only [take, step, here]
              exact present
          | some active =>
              simp only [evicts, here] at spared
              simp only [take, step, here]
              exact lookup_of_spared spared index active.call own present
  | outside step => exact outside_spared spared present

theorem outside_locked {state : ConcurrentMetrics} {after : SharedRegistry}
    (outside : Outside state.registry after) (locked : state.Locked) :
    ({ state with registry := after } : ConcurrentMetrics).Locked := by
  intro index active here
  have guarded := locked index active here
  constructor
  · intro holds
    rw [outside.lock]
    exact guarded.held holds
  · intro vacant
    have holds : active.point.holdsLock = true := by
      cases point : active.point <;> rw [point] at vacant <;> first | rfl | cases vacant
    rw [outside.locked (by rw [guarded.held holds]; nofun)]
    exact guarded.absent vacant

theorem outside_sound {state : ConcurrentMetrics} {after : SharedRegistry}
    (outside : Outside state.registry after) (sound : Sound state) :
    Sound { state with registry := after } where
  locked := outside_locked outside sound.locked
  owned := by
    obtain ⟨owner, owned⟩ := sound.owned
    refine ⟨owner, ?_, fun active member => (owned.held active member).same outside.allocated⟩
    intro method entry found
    rw [outside.allocated]
    exact owned.tracked method entry (outside.methods method entry found)
  balanced counter := by
    intro entry inside
    rw [outside.stats]
    exact sound.balanced counter entry (outside.allocated ▸ inside)
  totals := by
    obtain ⟨total, successful, failed⟩ := sound.totals
    exact ⟨outside.totals.total.trans total, outside.totals.successful.trans successful,
      outside.totals.failed.trans failed⟩

theorem take_sound (state : ConcurrentMetrics) (input : MetricsInput) (sound : Sound state) :
    Sound (state.take input) := by
  cases input with
  | call input => exact step_sound state input sound
  | outside step => exact outside_sound (outside_outside state.registry step) sound

theorem interleaved_sound (config : MetricsConfig) (clock : TimestampClock)
    (inputs : List MetricsInput) :
    Sound (interleaved.run (withConfig config clock) inputs) :=
  interleaved.run_invariant Sound take_sound _ inputs (withConfig_sound config clock)

end ConcurrentMetrics

end MadRpc
