import MadRpc.Metrics.Alone
import MadRpc.Metrics.SnapshotConcurrency

set_option autoImplicit false

namespace MadRpc

namespace Snapshotting

def Loads (order : List String) (registry : SharedRegistry) (before after : Snapshotting) : Prop :=
  ∃ loads, (advance order registry)^[loads] before = after

section Alone

variable {order : List String} {registry : SharedRegistry}

theorem Loads.here (snapshot : Snapshotting) : Loads order registry snapshot snapshot :=
  ⟨0, rfl⟩

theorem Loads.after {before next after : Snapshotting}
    (loaded : advance order registry before = next) (loads : Loads order registry next after) :
    Loads order registry before after := by
  obtain ⟨count, result⟩ := loads
  exact ⟨count + 1, by rw [Function.iterate_succ_apply, loaded, result]⟩

theorem Loads.trans {first second third : Snapshotting} (before : Loads order registry first second)
    (after : Loads order registry second third) : Loads order registry first third := by
  obtain ⟨earlier, rfl⟩ := before
  obtain ⟨later, rfl⟩ := after
  exact ⟨later + earlier, Function.iterate_add_apply _ _ _ _⟩

theorem loads_reading {name : String} {entry : Nat} {left : List (String × Nat)}
    {before after : MethodReading} (reads : before.Reads (registry.stats entry) after)
    (snapshot : Snapshotting) :
    Loads order registry { snapshot with point := .loading name entry before left }
      { snapshot with point := .loading name entry after left } := by
  obtain ⟨count, rfl⟩ := reads
  induction count generalizing before with
  | zero => exact .here _
  | succ count ih =>
      by_cases ended : before.next = .finished
      · have stays : before.load (registry.stats entry) = before := by
          simp only [MethodReading.load, ended]
        rw [Function.iterate_fixed stays]
        exact .here _
      · exact .after (by simp only [advance, if_neg ended]) ih

theorem loads_entries (left : List (String × Nat)) (snapshot : Snapshotting) :
    Loads order registry { snapshot with point := .entry left }
      { snapshot with
        methods := snapshot.methods ++
          left.map fun pair => (pair.1, (registry.stats pair.2).snapshot)
        point := .finished } := by
  induction left generalizing snapshot with
  | nil =>
      rw [List.map_nil, List.append_nil]
      exact .after rfl (.here _)
  | cons pair left ih =>
      obtain ⟨name, entry⟩ := pair
      have loading := @loads_reading order registry name entry left _ _
        (MethodReading.reads_snapshot (registry.stats entry)) snapshot
      have reported := ih { snapshot with
        methods := snapshot.methods ++ [(name, (registry.stats entry).snapshot)] }
      rw [List.append_assoc] at reported
      exact .after rfl (loading.trans (.after (by simp only [advance, if_pos]) reported))

def whole (order : List String) (registry : SharedRegistry) : Snapshotting where
  totalRequests := registry.totalRequests
  successfulRequests := registry.successfulRequests
  failedRequests := registry.failedRequests
  methods := (entries order registry).map fun pair => (pair.1, (registry.stats pair.2).snapshot)
  point := .finished

theorem loads_whole (free : registry.methodsLock = none) :
    Loads order registry start (whole order registry) := by
  have counters : Loads order registry start
      { whole order registry with methods := [], point := .lockMethods } := ⟨3, rfl⟩
  have locked : advance order registry
      { whole order registry with methods := [], point := .lockMethods } =
      { whole order registry with methods := [], point := .entry (entries order registry) } := by
    simp only [advance, if_pos free]
  exact counters.trans (.after locked
    (loads_entries _ { whole order registry with methods := [] }))

theorem whole_methods (order : List String) (registry : SharedRegistry)
    (activeConnections uptimeMs : UInt64) (includeNodes : Bool) :
    (whole order registry).methods = (registry.iterated order).filterMap fun name =>
      ((registry.view.snapshot activeConnections uptimeMs includeNodes).methods.lookup name).map
        fun metrics => (name, metrics) := by
  have looked (name : String) :
      (registry.view.snapshot activeConnections uptimeMs includeNodes).methods.lookup name =
        (registry.methods.lookup name).map fun entry => (registry.stats entry).snapshot := by
    rw [MetricsRegistry.snapshot, AList.lookup_mapEntries, SharedRegistry.view,
      AList.lookup_through, Option.map_map]
    rfl
  simp only [whole, entries, List.map_filterMap, looked, Option.map_map]
  rfl

end Alone

end Snapshotting

namespace ObservedMetrics

theorem run_loads (order : List String) (index count : Nat) (state : ObservedMetrics)
    (snapshot : Snapshotting) (there : state.snapshots[index]? = some snapshot) :
    machine.run state (List.replicate count (.load index order)) =
      { state with
        snapshots := state.snapshots.set index
          ((Snapshotting.advance order state.metrics.registry)^[count] snapshot) } := by
  induction count generalizing state snapshot with
  | zero =>
      obtain ⟨inside, here⟩ := List.getElem?_eq_some_iff.mp there
      rw [Function.iterate_zero_apply, ← here, List.set_getElem_self]
      rfl
  | succ count ih =>
      have inside := (List.getElem?_eq_some_iff.mp there).1
      let loaded := snapshot.advance order state.metrics.registry
      have stepped : state.step (.load index order) =
          { state with snapshots := state.snapshots.set index loaded } := by
        simp only [step, there, loaded]
      have next := ih { state with snapshots := state.snapshots.set index loaded } loaded
        (List.getElem?_set_self inside)
      rw [List.replicate_succ, Machine.run_cons, Function.iterate_succ_apply]
      rw [List.set_set] at next
      exact (congrArg (machine.run · _) stepped).trans next

/-- A snapshot that no call comes between is the snapshot of the registry as calls one after
another see it. -/
theorem snapshot_alone (order : List String) (state : ObservedMetrics)
    (free : state.metrics.registry.methodsLock = none) :
    ∃ loads snapshot,
      machine.run (state.step .snapshot)
          (List.replicate loads (.load state.snapshots.length order)) =
        { state with snapshots := state.snapshots ++ [snapshot] } ∧
      snapshot.point = .finished ∧
      ∀ activeConnections uptimeMs includeNodes,
        let whole := state.metrics.registry.view.snapshot activeConnections uptimeMs includeNodes
        snapshot.totalRequests = whole.totalRequests ∧
          snapshot.successfulRequests = whole.successfulRequests ∧
          snapshot.failedRequests = whole.failedRequests ∧
          snapshot.methods = (state.metrics.registry.iterated order).filterMap fun name =>
            (whole.methods.lookup name).map fun metrics => (name, metrics) := by
  obtain ⟨loads, result⟩ := @Snapshotting.loads_whole order _ free
  have there : (state.step .snapshot).snapshots[state.snapshots.length]? = some .start := by
    simp [step]
  refine ⟨loads, .whole order state.metrics.registry, ?_, rfl, fun _ _ _ => ⟨rfl, rfl, rfl, ?_⟩⟩
  · have ran := run_loads order _ loads _ _ there
    have loaded : (Snapshotting.advance order (state.step .snapshot).metrics.registry)^[loads]
        .start = .whole order state.metrics.registry := result
    rw [loaded] at ran
    refine ran.trans (congrArg (ObservedMetrics.mk state.metrics) ?_)
    simp [step]
  · exact Snapshotting.whole_methods order state.metrics.registry _ _ _

/-! The call of `sum` is over, and that of `mul` has its entry but no count in it. -/

def midCall : ObservedMetrics :=
  machine.run (withConfig .default .initial)
    (.call (.begin ⟨"sum", 7, true⟩) :: List.replicate 34 (.call (.advance 0 ⟨some 5, [], []⟩)) ++
      .call (.begin ⟨"mul", 9, false⟩) :: List.replicate 8 (.call (.advance 1 ⟨some 5, [], []⟩)))

theorem snapshot_alone_witness :
    ∃ loads snapshot, machine.run (midCall.step .snapshot)
        (List.replicate loads (.load midCall.snapshots.length ["mul", "sum"])) =
        { midCall with snapshots := midCall.snapshots ++ [snapshot] } ∧
      snapshot.point = .finished ∧ snapshot.totalRequests = 2 ∧
      snapshot.methods = [("mul", ⟨0, 0, 0, 0, 0, 0, 0⟩), ("sum", ⟨1, 1, 0, 7, 1, 1, 1⟩)] := by
  obtain ⟨loads, snapshot, ran, finished, shown⟩ :=
    snapshot_alone ["mul", "sum"] midCall (by decide +kernel)
  obtain ⟨total, -, -, methods⟩ := shown 0 0 false
  exact ⟨loads, snapshot, ran, finished, total.trans (by decide +kernel),
    methods.trans (by decide +kernel)⟩

end ObservedMetrics

end MadRpc
