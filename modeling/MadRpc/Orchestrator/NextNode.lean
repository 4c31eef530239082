import MadRpc.Orchestrator.Fairness

set_option autoImplicit false

namespace MadRpc

def Operation.isRemoveNode : Operation → Bool
  | .removeNode _ => true
  | _ => false

namespace LoadBalancer

def unopened (lb : LoadBalancer) (addr : String) : Bool := lb.circuitState addr ≠ some .opened

structure SelectsNext (lb : LoadBalancer) (now : SystemTime) : Prop where
  first : (lb.nextNode now).2 =
    (lb.enabledNodes.rotate (lb.roundRobinIndex % lb.enabledNodes.length)).find? lb.unopened
  exhausted : (lb.nextNode now).2 = none ↔
    ∀ addr ∈ lb.enabledNodes, lb.circuitState addr = some .opened
  rotation : (lb.nextNode now).1.enabledNodes = lb.enabledNodes
  config : (lb.nextNode now).1.circuitConfig = lb.circuitConfig
  keys : (lb.nextNode now).1.nodes.keys = lb.nodes.keys
  nodes : ∀ addr, (lb.nextNode now).1.nodes.lookup addr =
    (lb.nodes.lookup addr).map fun node =>
      if (lb.nextNode now).2 = some addr then
        { node with requestCount := node.requestCount + 1, lastRequestTime := some now }
      else node
  advanced : ∀ addr, (lb.nextNode now).2 = some addr →
    ∃ position, lb.enabledNodes[position]? = some addr ∧
      (lb.nextNode now).1.roundRobinIndex = (position + 1) % lb.enabledNodes.length
  stayed : (lb.nextNode now).2 = none →
    (lb.nextNode now).1.roundRobinIndex =
      if lb.enabledNodes = [] then lb.roundRobinIndex
      else lb.roundRobinIndex % lb.enabledNodes.length

theorem Consistent.selectable_eq {lb : LoadBalancer} (consistent : Consistent lb) (addr : String)
    (listed : addr ∈ lb.enabledNodes) : lb.selectable addr = lb.unopened addr := by
  obtain ⟨node, found, _⟩ := (consistent.rotation addr).mp listed
  simp [selectable, unopened, circuitState, found]

theorem Consistent.inTurn_eq {lb : LoadBalancer} (consistent : Consistent lb) :
    lb.inTurn = (lb.enabledNodes.rotate lb.roundRobinIndex).filter lb.unopened :=
  List.filter_congr fun addr member =>
    consistent.selectable_eq addr (List.mem_rotate.mp member)

theorem chosen_head (lb : LoadBalancer) : lb.chosen = lb.inTurn.head? := by
  cases turn : lb.inTurn with
  | nil => exact (lb.selection_none 0 turn).1
  | cons addr rest => exact (lb.selection_some 0 addr rest turn).1

theorem mem_inTurn (lb : LoadBalancer) (addr : String) :
    addr ∈ lb.inTurn ↔ addr ∈ lb.enabledNodes ∧ lb.selectable addr = true := by
  rw [inTurn, List.mem_filter, List.mem_rotate]

theorem Consistent.chosen_none_iff {lb : LoadBalancer} (consistent : Consistent lb) :
    lb.chosen = none ↔ ∀ addr ∈ lb.enabledNodes, lb.circuitState addr = some .opened := by
  rw [chosen_head, List.head?_eq_none_iff, List.eq_nil_iff_forall_not_mem]
  apply forall_congr'
  intro addr
  rw [mem_inTurn, not_and]
  apply forall_congr'
  intro listed
  rw [consistent.selectable_eq addr listed]
  simp [unopened]

theorem afterSelection_nodes (lb : LoadBalancer) (now : SystemTime) (addr : String) :
    (lb.afterSelection now).nodes.lookup addr =
      (lb.nodes.lookup addr).map fun node =>
        if lb.chosen = some addr then node.served now else node := by
  unfold afterSelection
  cases lb.chosen with
  | none => simp
  | some served =>
      by_cases same : addr = served
      · simp [same]
      · simp [same, Ne.symm same]

theorem Consistent.selectsNext {lb : LoadBalancer} (consistent : Consistent lb)
    (now : SystemTime) : SelectsNext lb now := by
  have call := nextNode_correct lb now
  constructor <;> rw [call]
  · rw [chosen_head, consistent.inTurn_eq, List.head?_filter, List.rotate_mod]
  · exact consistent.chosen_none_iff
  · rfl
  · rfl
  · show (lb.chosen.elim lb.nodes _).keys = lb.nodes.keys
    cases lb.chosen with
    | none => rfl
    | some addr => exact AList.keys_modify _ _ _
  · exact afterSelection_nodes lb now
  · intro addr returned
    rw [chosen_head, List.head?_eq_some_iff] at returned
    obtain ⟨rest, turn⟩ := returned
    exact (lb.selection_some now addr rest turn).2.2
  · intro nobody
    rw [chosen_head, List.head?_eq_none_iff] at nobody
    rw [(lb.selection_none now nobody).2]
    simp

def requestCount (lb : LoadBalancer) (addr : String) : UInt64 :=
  ((lb.nodes.lookup addr).map Node.requestCount).getD 0

theorem requestCount_of_lookup {lb after : LoadBalancer} {addr : String} (update : Node → Node)
    (same : ∀ node, (update node).requestCount = node.requestCount)
    (found : after.nodes.lookup addr = (lb.nodes.lookup addr).map update) :
    after.requestCount addr = lb.requestCount addr := by
  simp only [requestCount, found, Option.map_map, Function.comp_def, same]

theorem afterSelection_requestCount (lb : LoadBalancer) (now : SystemTime) (addr : String) :
    (lb.afterSelection now).requestCount addr =
      lb.requestCount addr + if lb.chosen = some addr then 1 else 0 := by
  by_cases returned : lb.chosen = some addr
  · -- A node that is returned is in the map.
    have ready : lb.selectable addr = true := by
      rw [chosen_head] at returned
      exact ((mem_inTurn lb addr).mp (List.mem_of_mem_head? returned)).2
    obtain ⟨state, found, _⟩ := (Option.any_eq_true ..).mp ready
    obtain ⟨node, present, _⟩ := Option.map_eq_some_iff.mp found
    simp [requestCount, afterSelection_nodes, returned, present, Node.served]
  · simp [requestCount, afterSelection_nodes, returned]

theorem healthChecked_requestCount (config : CircuitBreakerConfig) (status : HealthCheckStatus)
    (checkedAt : Instant) (now : SystemTime) (node : Node) :
    (node.healthChecked config status checkedAt now).requestCount = node.requestCount := by
  unfold Node.healthChecked
  cases status with
  | healthy => simp only; split <;> rfl
  | unhealthy message => simp only; split <;> (try split) <;> rfl

theorem timeoutChecked_requestCount (config : CircuitBreakerConfig) (now : SystemTime)
    (node : Node) : (node.timeoutChecked config now).1.requestCount = node.requestCount := by
  rcases node.timeoutChecked_cases config now with same | moved
  · rw [same]
  · rw [moved]

theorem perform_requestCount (lb : LoadBalancer) (operation : Operation) (addr : String)
    (other : operation.isNextNode = false) (kept : operation.isRemoveNode = false) :
    (lb.perform operation).1.requestCount addr = lb.requestCount addr := by
  have change := perform_change lb operation
  generalize (lb.perform operation).1 = after, (lb.perform operation).2 = reply at change
  have updated (target : String) (update : Node → Node)
      (same : ∀ node, (update node).requestCount = node.requestCount)
      (found : after.nodes.lookup addr =
        if addr = target then (lb.nodes.lookup addr).map update else lb.nodes.lookup addr) :
      after.requestCount addr = lb.requestCount addr := by
    by_cases here : addr = target
    · exact requestCount_of_lookup update same (by rw [found, if_pos here])
    · rw [requestCount, found, if_neg here, requestCount]
  cases change with
  | select => simp [Operation.isNextNode] at other
  | removed => simp [Operation.isRemoveNode] at kept
  | refused | known => rfl
  | check target status checkedAt now =>
      exact updated target _ (healthChecked_requestCount lb.circuitConfig status checkedAt now)
        (updateHealthStatus_lookup lb target addr status checkedAt now)
  | timeouts now =>
      exact requestCount_of_lookup _ (timeoutChecked_requestCount lb.circuitConfig (now addr))
        (checkCircuitTimeouts_lookup lb addr now)
  | disabled target | autoDisabled target =>
      exact updated target (Node.disabledFor _) (fun _ => rfl)
        (leaveRotation_lookup lb target addr _)
  | enabled target | autoEnabled target =>
      exact updated target Node.reenabled (fun _ => rfl) (joinRotation_lookup lb target addr)
  | added target absent =>
      -- A node is added with no requests, and its address had none before.
      by_cases here : addr = target
      · subst here
        simp [requestCount, AList.lookup_eq_none.mpr absent, Node.new]
      · simp [requestCount, here]

theorem run_requestCount (lb : LoadBalancer) (operations : List Operation) (addr : String)
    (kept : ∀ operation ∈ operations, operation.isRemoveNode = false) :
    (machine.run lb operations).requestCount addr =
      lb.requestCount addr + UInt64.ofNat ((selections lb operations).count (some addr)) := by
  induction operations generalizing lb with
  | nil => simp [selections]
  | cons operation rest ih =>
      have later := ih (lb.perform operation).1 fun other member =>
        kept other (List.mem_cons_of_mem _ member)
      rw [Machine.run_cons, machine_step, later]
      cases call : operation.isNextNode with
      | true =>
        obtain ⟨now, rfl⟩ := Operation.isNextNode_iff.mp call
        rw [perform_nextNode, selections_nextNode, afterSelection_requestCount, List.count_cons,
          UInt64.ofNat_add, UInt64.add_assoc]
        congr 1
        rw [UInt64.add_comm]
        congr 1
        by_cases returned : lb.chosen = some addr <;> simp [returned]
      | false =>
        rw [selections_other lb operation rest call,
          perform_requestCount lb operation addr call (kept operation List.mem_cons_self)]

theorem withConfig_requestCount (nodeAddrs : List String) (config : CircuitBreakerConfig)
    (addr : String) : (withConfig nodeAddrs config).requestCount addr = 0 := by
  simp only [requestCount, withConfig, AList.lookup_ofKeys]
  split <;> rfl

theorem next_node_exact (nodeAddrs : List String) (config : CircuitBreakerConfig)
    (operations : List Operation) :
    (∀ now, SelectsNext (machine.run (withConfig nodeAddrs config) operations) now) ∧
      ((selections (withConfig nodeAddrs config) operations).countP (·.isSome) < UInt64.size →
        (∀ operation ∈ operations, operation.isRemoveNode = false) →
        ∀ addr node,
          (machine.run (withConfig nodeAddrs config) operations).nodes.lookup addr = some node →
          node.requestCount.toNat =
            (selections (withConfig nodeAddrs config) operations).count (some addr)) := by
  have consistent : Consistent (machine.run (withConfig nodeAddrs config) operations) :=
    Reachable.consistent ⟨config, operations, rfl⟩
  refine ⟨consistent.selectsNext, fun bounded kept addr node found => ?_⟩
  have counted := run_requestCount (withConfig nodeAddrs config) operations addr kept
  rw [withConfig_requestCount, requestCount, found, UInt64.zero_add] at counted
  have fewer : (selections (withConfig nodeAddrs config) operations).count (some addr) ≤
      (selections (withConfig nodeAddrs config) operations).countP (·.isSome) :=
    List.countP_mono_left fun returned _ same => by simp [eq_of_beq same]
  rw [show node.requestCount = _ from counted, UInt64.toNat_ofNat']
  exact Nat.mod_eq_of_lt (Nat.lt_of_le_of_lt fewer bounded)

theorem next_node_exact_witness :
    let pool := withConfig ["http://a", "http://b"] .default
    let operations := [Operation.nextNode 5, .addNode "http://c", .nextNode 6, .nextNode 7,
      .nextNode 8]
    let node := { Node.new "http://a" with requestCount := 2, lastRequestTime := some 8 }
    node.requestCount.toNat = (selections pool operations).count (some "http://a") :=
  (next_node_exact ["http://a", "http://b"] .default _).2 (by decide) (by decide) "http://a" _
    (by decide)

end LoadBalancer

end MadRpc
