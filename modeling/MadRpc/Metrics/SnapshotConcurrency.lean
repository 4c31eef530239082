import MadRpc.Metrics.Conservation
import MadRpc.Metrics.Snapshot

set_option autoImplicit false

/-!
# Snapshots taken while calls are recorded

Every load of a snapshot is a step of its own, taken between any steps of any calls. The
read lock of the methods is held by any number of snapshots, and by none while a call
holds the write lock.
-/

namespace MadRpc

/-- Where `snapshot(false)` is. From `entry` on it holds the read lock. -/
inductive SnapshotPoint where
  | totalRequests
  | successfulRequests
  | failedRequests
  | lockMethods
  -- The names that the iteration has still to come to, with their entries.
  | entry (left : List (String × Nat))
  | loading (name : String) (entry : Nat) (reading : MethodReading)
      (left : List (String × Nat))
  | finished
  deriving DecidableEq, Repr

def SnapshotPoint.holdsLock : SnapshotPoint → Bool
  | entry _ | loading _ _ _ _ => true
  | _ => false

structure Snapshotting where
  totalRequests : UInt64
  successfulRequests : UInt64
  failedRequests : UInt64
  methods : List (String × MethodMetrics)
  point : SnapshotPoint
  deriving DecidableEq, Repr

namespace Snapshotting

def start : Snapshotting where
  totalRequests := 0
  successfulRequests := 0
  failedRequests := 0
  methods := []
  point := .totalRequests

def entries (order : List String) (registry : SharedRegistry) : List (String × Nat) :=
  (registry.iterated order).filterMap fun name =>
    (registry.methods.lookup name).map fun entry => (name, entry)

def advance (order : List String) (registry : SharedRegistry) (snapshot : Snapshotting) :
    Snapshotting :=
  match snapshot.point with
  | .totalRequests =>
      { snapshot with totalRequests := registry.totalRequests, point := .successfulRequests }
  | .successfulRequests =>
      { snapshot with
        successfulRequests := registry.successfulRequests
        point := .failedRequests }
  | .failedRequests =>
      { snapshot with failedRequests := registry.failedRequests, point := .lockMethods }
  | .lockMethods =>
      if registry.methodsLock = none then { snapshot with point := .entry (entries order registry) }
      else snapshot
  | .entry ((name, entry) :: left) => { snapshot with point := .loading name entry .start left }
  | .entry [] => { snapshot with point := .finished }
  | .loading name entry reading left =>
      if reading.next = .finished then
        { snapshot with
          methods := snapshot.methods ++ [(name, reading.metrics)]
          point := .entry left }
      else
        { snapshot with
          point := .loading name entry (reading.load (registry.stats entry)) left }
  | .finished => snapshot

end Snapshotting

structure ObservedMetrics where
  metrics : ConcurrentMetrics
  snapshots : List Snapshotting

inductive ObservedInput where
  | call (input : ConcurrentInput)
  | snapshot
  | load (index : Nat) (order : List String)

def Point.wantsLock : Point → Bool
  | lockCleanup _ | lockEntry => true
  | _ => false

def ConcurrentMetrics.waits (state : ConcurrentMetrics) : ConcurrentInput → Bool
  | .begin _ => false
  | .advance index _ => (state.calls[index]?).any fun active => active.point.wantsLock

namespace ObservedMetrics

def withConfig (config : MetricsConfig) (clock : TimestampClock) : ObservedMetrics where
  metrics := .withConfig config clock
  snapshots := []

def readLocked (state : ObservedMetrics) : Bool :=
  state.snapshots.any fun snapshot => snapshot.point.holdsLock

def step (state : ObservedMetrics) : ObservedInput → ObservedMetrics
  | .call input =>
      if state.readLocked && state.metrics.waits input then state
      else { state with metrics := state.metrics.step input }
  | .snapshot => { state with snapshots := state.snapshots ++ [.start] }
  | .load index order =>
      match state.snapshots[index]? with
      | some snapshot =>
          { state with
            snapshots :=
              state.snapshots.set index (snapshot.advance order state.metrics.registry) }
      | none => state

def machine : Machine ObservedMetrics ObservedInput Unit where
  step state input := (state.step input, ())

end ObservedMetrics

namespace Counter

theorem added_mono {counter : Counter} {entry : Nat} {active : ActiveCall}
    {before after : SharedRegistry} {next : Point}
    (effect : SharedRegistry.Effect active.call before active.point after next) :
    counter.added entry active ≤ counter.added entry { active with point := next } := by
  cases effect with
  | elsewhere _ _ _ _ program => rw [added, added, program]
  | found _ point | created _ _ point | left _ point =>
      rw [added_of_idle (by rw [point]; rfl)]
      exact Nat.zero_le _
  | updated own systemTime now systemTime' now' update rest point =>
      have before : active.point.program = some (own, update :: rest) := by
        rw [point]
        rfl
      have less : counter.owed active.call rest ≤ counter.owed active.call (update :: rest) :=
        Nat.le_add_left _ _
      rw [added_of_program before, added_of_program rfl]
      split
      next => exact Nat.sub_le_sub_left less _
      next => exact Nat.le_refl 0

end Counter

namespace ConcurrentMetrics

def counted (state : ConcurrentMetrics) (counter : Counter) (entry : Nat) : Nat :=
  tally (counter.added entry) state.calls

structure Later (before after : ConcurrentMetrics) : Prop where
  counted : ∀ counter entry, before.counted counter entry ≤ after.counted counter entry
  total : tally ActiveCall.total before.calls ≤ tally ActiveCall.total after.calls
  successful : tally ActiveCall.successful before.calls ≤ tally ActiveCall.successful after.calls
  failed : tally ActiveCall.failed before.calls ≤ tally ActiveCall.failed after.calls

theorem Later.refl (state : ConcurrentMetrics) : Later state state :=
  ⟨fun _ _ => Nat.le_refl _, Nat.le_refl _, Nat.le_refl _, Nat.le_refl _⟩

theorem Later.trans {first second third : ConcurrentMetrics} (before : Later first second)
    (after : Later second third) : Later first third where
  counted counter entry := Nat.le_trans (before.counted counter entry) (after.counted counter entry)
  total := Nat.le_trans before.total after.total
  successful := Nat.le_trans before.successful after.successful
  failed := Nat.le_trans before.failed after.failed

theorem tally_grown {weight : ActiveCall → Nat} {calls : List ActiveCall} {index : Nat}
    {before after : ActiveCall} (here : calls[index]? = some before)
    (grown : weight before ≤ weight after) :
    tally weight calls ≤ tally weight (calls.set index after) := by
  have moved := tally_set weight calls index before after here
  omega

theorem step_later (state : ConcurrentMetrics) (input : ConcurrentInput) :
    Later state (state.step input) := by
  have stepped := step_cases state input
  generalize state.step input = next at stepped
  cases stepped with
  | began call =>
      constructor
      · intro counter entry
        rw [counted, counted, tally_concat]
        exact Nat.le_add_right _ _
      all_goals
        rw [tally_concat]
        exact Nat.le_add_right _ _
  | unknown => exact Later.refl state
  | advanced index input active here =>
      obtain ⟨_, _, _, adds⟩ := advance_adds index active input state.registry
      exact ⟨fun counter entry => tally_grown here
          (Counter.added_mono (SharedRegistry.advance_effect index active.call input _ _)),
        tally_grown here (adds.total ▸ Nat.le_add_right _ _),
        tally_grown here (adds.successful ▸ Nat.le_add_right _ _),
        tally_grown here (adds.failed ▸ Nat.le_add_right _ _)⟩

end ConcurrentMetrics

end MadRpc
