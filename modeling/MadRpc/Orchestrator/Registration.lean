import MadRpc.Orchestrator.Bypass
import MadRpc.Orchestrator.Orchestrator

set_option autoImplicit false

namespace MadRpc

namespace LoadBalancer

/-- What registration promises: the node takes part in the rotation once, and the calls
of one turn of the rotation reach it. -/
structure Routable (addr : String) (lb : LoadBalancer) : Prop where
  serving : Serving addr lb
  listed : lb.enabledNodes.count addr = 1
  returned : ∀ clock : List SystemTime, clock.length = lb.enabledCount →
    some addr ∈ selections lb (clock.map .nextNode)

theorem throughout_calls (property : LoadBalancer → Prop)
    (kept : ∀ lb now, property lb → property (lb.afterSelection now)) (lb : LoadBalancer)
    (clock : List SystemTime) (initial : property lb) :
    machine.Throughout property lb (clock.map .nextNode) := by
  induction clock generalizing lb with
  | nil => exact initial
  | cons now rest ih =>
      refine ⟨initial, ?_⟩
      rw [machine_step, perform_nextNode]
      exact ih _ (kept lb now initial)

theorem departures_calls (lb : LoadBalancer) (clock : List SystemTime) :
    departures lb (clock.map .nextNode) = 0 := by
  induction clock generalizing lb with
  | nil => rfl
  | cons now rest ih =>
      have stays : lb.departs (.nextNode now) = false := by
        simp [departs, perform_nextNode, afterSelection]
      simp [departures, stays, ih]

theorem selections_calls_length (lb : LoadBalancer) (clock : List SystemTime) :
    (selections lb (clock.map .nextNode)).length = clock.length := by
  induction clock generalizing lb with
  | nil => rfl
  | cons now rest ih => simp [selections_nextNode, ih]

theorem chosen_circuitState (lb : LoadBalancer) (addr : String)
    (returned : lb.chosen = some addr) : lb.circuitState addr ≠ some .opened := by
  obtain ⟨position, picked, found⟩ := Option.bind_eq_some_iff.mp returned
  have within := (List.getElem?_eq_some_iff.mp found).1
  have selected := RoundRobin.select_selected lb.available lb.enabledNodes.length
    lb.roundRobinIndex _ position (by omega) (Prod.ext rfl picked)
  have ready := selected.chosen
  rw [LoadBalancer.available, found] at ready
  intro failing
  simp [selectable, failing] at ready

theorem opened_never_returned (lb : LoadBalancer) (addr : String)
    (failing : lb.circuitState addr = some .opened) (clock : List SystemTime) :
    some addr ∉ selections lb (clock.map .nextNode) := by
  -- The calls leave the circuit as it is.
  induction clock generalizing lb with
  | nil => simp [selections]
  | cons now rest ih =>
      rw [List.map_cons, selections_nextNode, List.mem_cons, not_or]
      constructor
      · intro returned
        exact chosen_circuitState lb addr returned.symm failing
      · exact ih _ (by rw [afterSelection_circuitState, failing])

theorem Wellformed.returned {lb : LoadBalancer} (wellformed : Wellformed lb) (addr : String)
    (serving : Serving addr lb) (clock : List SystemTime)
    (turn : clock.length = lb.enabledCount) :
    some addr ∈ selections lb (clock.map .nextNode) := by
  obtain ⟨listed, ready⟩ := (wellformed.serving_iff addr).mp serving
  obtain ⟨position, here⟩ := List.mem_iff_getElem?.mp listed
  have within := (List.getElem?_eq_some_iff.mp here).1
  have served : machine.Throughout (Serving addr) lb (clock.map .nextNode) :=
    (throughout_calls
      (fun state => state.Wellformed ∧ addr ∈ state.enabledNodes ∧
        state.circuitState addr ≠ some .opened)
      (fun state now holds =>
        ⟨by simpa [perform_nextNode] using perform_wellformed state (.nextNode now) holds.1,
          holds.2.1, by rw [afterSelection_circuitState]; exact holds.2.2⟩)
      lb clock ⟨wellformed, listed, ready⟩).mono
      fun state holds => (holds.1.serving_iff addr).mpr holds.2
  have fits : machine.Throughout (fun state => state.enabledCount ≤ lb.enabledCount) lb
      (clock.map .nextNode) :=
    throughout_calls _ (fun _ _ small => small) lb clock le_rfl
  by_contra bypassed
  have waited := bypassed_calls_le lb _ addr lb.enabledCount position wellformed here served fits
    bypassed
  have patient := patience_le lb lb.enabledCount position le_rfl within
  rw [selections_calls_length, departures_calls, Nat.zero_mul, Nat.add_zero] at waited
  have positive : 0 < lb.enabledCount := by
    rw [enabledCount]
    omega
  omega

theorem Wellformed.routable_iff {lb : LoadBalancer} (wellformed : Wellformed lb) (addr : String)
    (listed : addr ∈ lb.enabledNodes) :
    Routable addr lb ↔ lb.circuitState addr ≠ some .opened := by
  constructor
  · intro routable
    exact ((wellformed.serving_iff addr).mp routable.serving).2
  · intro ready
    have serving := (wellformed.serving_iff addr).mpr ⟨listed, ready⟩
    exact ⟨serving, List.count_eq_one_of_mem wellformed.distinct listed,
      wellformed.returned addr serving⟩

end LoadBalancer

theorem registerNode_correct (lb : LoadBalancer) (nodeUrl : String)
    (valid : isHttpUrl nodeUrl = true) :
    (registerNode lb nodeUrl).1 =
      LoadBalancer.machine.run lb [.addNode nodeUrl, .enableNode nodeUrl] := by
  simp [registerNode, valid, LoadBalancer.perform]

theorem addNode_lookup (lb : LoadBalancer) (addr : String) :
    (lb.addNode addr).nodes.lookup addr = some ((lb.nodes.lookup addr).getD (Node.new addr)) := by
  unfold LoadBalancer.addNode
  split
  next present =>
    obtain ⟨node, found⟩ := Option.isSome_iff_exists.mp (AList.lookup_isSome.mpr present)
    simp [found]
  next absent => simp [AList.lookup_eq_none.mpr absent]

theorem registerNode_lookup (lb : LoadBalancer) (nodeUrl : String)
    (valid : isHttpUrl nodeUrl = true) :
    (registerNode lb nodeUrl).1.nodes.lookup nodeUrl =
      some ((lb.nodes.lookup nodeUrl).getD (Node.new nodeUrl)).reenabled := by
  -- Enabling rewrites the flag, the reason and the count of the node, and no more.
  have added := addNode_lookup lb nodeUrl
  simp [registerNode, valid, LoadBalancer.enableNode, added]

theorem registerNode_circuitState (lb : LoadBalancer) (nodeUrl : String)
    (valid : isHttpUrl nodeUrl = true) :
    (registerNode lb nodeUrl).1.circuitState nodeUrl = some .opened ↔
      lb.circuitState nodeUrl = some .opened := by
  rw [LoadBalancer.circuitState, registerNode_lookup lb nodeUrl valid, LoadBalancer.circuitState]
  cases lb.nodes.lookup nodeUrl <;> simp [Node.new, Node.reenabled]

theorem registered_routable (nodeAddrs : List String) (config : CircuitBreakerConfig)
    (healthConfig : HealthCheckConfig) (distinct : nodeAddrs.Nodup)
    (steps : List OrchestratorStep) (nodeUrl : String) (valid : isHttpUrl nodeUrl = true) :
    let lb := (Orchestrator.machine.run
      (.start (.withConfig nodeAddrs config) healthConfig) steps).loadBalancer
    let after := (registerNode lb nodeUrl).1
    (registerNode lb nodeUrl).2.isOk ∧
    (∃ node, after.nodes.lookup nodeUrl = some node ∧ node.enabled = true) ∧
    after.enabledNodes.count nodeUrl = 1 ∧
    (after.Routable nodeUrl ↔ lb.circuitState nodeUrl ≠ some .opened) ∧
    (lb.circuitState nodeUrl = some .opened →
      ∀ clock : List SystemTime, some nodeUrl ∉ after.selections (clock.map .nextNode)) := by
  intro lb after
  have wellformed : after.Wellformed := by
    show (registerNode lb nodeUrl).1.Wellformed
    rw [registerNode_correct lb nodeUrl valid,
      show lb = _ from Orchestrator.run_correct _ steps, ← Machine.run_append]
    exact LoadBalancer.run_wellformed nodeAddrs config distinct _
  have found := registerNode_lookup lb nodeUrl valid
  have listed : nodeUrl ∈ after.enabledNodes :=
    (wellformed.rotation nodeUrl).mpr ⟨_, found, rfl⟩
  refine ⟨by simp [registerNode, valid, Except.isOk, Except.toBool], ⟨_, found, rfl⟩,
    List.count_eq_one_of_mem wellformed.distinct listed, ?_, fun failing clock => ?_⟩
  · rw [wellformed.routable_iff nodeUrl listed, Ne, registerNode_circuitState lb nodeUrl valid]
  · exact LoadBalancer.opened_never_returned after nodeUrl
      ((registerNode_circuitState lb nodeUrl valid).mpr failing) clock

theorem registered_routable_witness :
    let lb := (Orchestrator.machine.run (.start (.withConfig ["http://a", "http://b"] .default)
      .default) [.call (.disableNode "http://b")]).loadBalancer
    let after := (registerNode lb "http://b").1
    (registerNode lb "http://b").2.isOk ∧
    (∃ node, after.nodes.lookup "http://b" = some node ∧ node.enabled = true) ∧
    after.enabledNodes.count "http://b" = 1 ∧
    (after.Routable "http://b" ↔ lb.circuitState "http://b" ≠ some .opened) ∧
    (lb.circuitState "http://b" = some .opened →
      ∀ clock : List SystemTime, some "http://b" ∉ after.selections (clock.map .nextNode)) :=
  registered_routable ["http://a", "http://b"] .default .default (by decide) _ "http://b"
    (by decide)

theorem registered_unroutable :
    -- Five failed checks open the circuit, and the node then registers itself again.
    let lb := (Orchestrator.machine.run (.start (.new ["http://a"]) .default)
      (List.replicate 5
        (.call (.updateHealthStatus "http://a" (.unhealthy "refused") 0 0)))).loadBalancer
    let after := (registerNode lb "http://a").1
    (registerNode lb "http://a").2.isOk ∧ after.circuitState "http://a" = some .opened ∧
      after.enabledCount = 1 ∧ after.selections [.nextNode 1] = [none] := by
  decide

end MadRpc
