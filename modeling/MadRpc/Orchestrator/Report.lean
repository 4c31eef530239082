import MadRpc.Common.Builtin
import MadRpc.Metrics.Snapshot
import MadRpc.Orchestrator.NextNode
import MadRpc.Orchestrator.Rotation

set_option autoImplicit false

namespace MadRpc

def DisableReason.debug : DisableReason → String
  | manual => "Manual"
  | healthCheck => "HealthCheck"

def CircuitBreakerState.debug : CircuitBreakerState → String
  | closed => "Closed"
  | opened => "Open"
  | halfOpen => "HalfOpen"

/-- A time before the epoch is an error of `duration_since`, and read as zero. -/
def SystemTime.unixMs (time : SystemTime) : UInt64 :=
  if 0 ≤ time then UInt64.ofNat (time.toNat / 1000000) else 0

namespace Node

def metrics (node : Node) : NodeMetrics where
  nodeAddr := node.addr
  requestCount := node.requestCount
  lastRequestMs := (node.lastRequestTime.map SystemTime.unixMs).getD 0

def info (node : Node) : OrchestratorNodeInfo where
  addr := node.addr
  enabled := node.enabled
  disableReason := node.disableReason.map DisableReason.debug
  circuitState := node.circuitState.debug
  consecutiveFailures := node.consecutiveFailures

end Node

namespace LoadBalancer

/-- The map is made anew, under the addresses that the nodes have themselves. -/
def nodeMetrics (order : List String) (lb : LoadBalancer) : AList fun _ : String => NodeMetrics :=
  (lb.allNodes order).foldl (fun metrics node => metrics.insert node.addr node.metrics) ∅

def getInfo (order : List String) (uptimeMs : UInt64) (lb : LoadBalancer) : OrchestratorInfo :=
  let nodes := lb.allNodes order
  let enabledNodes := nodes.filter Node.enabled
  { version := CARGO_PKG_VERSION
    uptimeMs := uptimeMs
    totalNodes := nodes.length
    enabledNodes := enabledNodes.length
    disabledNodes := nodes.length - enabledNodes.length
    nodes := nodes.map Node.info }

end LoadBalancer

namespace Orchestrator

/-- The nodes that the registry itself has counted are replaced. -/
def getMetrics (order : List String) (registry : MetricsRegistry)
    (activeConnections uptimeMs : UInt64) (lb : LoadBalancer) : MetricsSnapshot :=
  { registry.snapshot activeConnections uptimeMs true with nodes := some (lb.nodeMetrics order) }

def getInfo (order : List String) (uptimeMs : UInt64) (lb : LoadBalancer) : InfoResponse :=
  .orchestrator (lb.getInfo order uptimeMs)

end Orchestrator

namespace LoadBalancer

section

variable {lb : LoadBalancer} {order : List String}

theorem Consistent.lookup_own (consistent : Consistent lb) {addr : String} {node : Node}
    (found : lb.nodes.lookup addr = some node) : lb.nodes.lookup node.addr = some node := by
  rw [consistent.keyed addr node found, found]

theorem mem_allNodes (iterated : order.Perm lb.nodes.keys) (node : Node) :
    node ∈ lb.allNodes order ↔ ∃ addr, lb.nodes.lookup addr = some node := by
  rw [allNodes, List.mem_filterMap]
  refine exists_congr fun addr => and_iff_right_of_imp fun found => ?_
  exact iterated.mem_iff.mpr (AList.lookup_isSome.mp (by rw [found]; rfl))

theorem Consistent.allNodes_addrs (consistent : Consistent lb)
    (known : ∀ addr ∈ order, addr ∈ lb.nodes) : (lb.allNodes order).map Node.addr = order := by
  induction order with
  | nil => rfl
  | cons addr rest ih =>
      obtain ⟨here, others⟩ := List.forall_mem_cons.mp known
      obtain ⟨node, found⟩ := Option.isSome_iff_exists.mp (AList.lookup_isSome.mpr here)
      have tail := ih others
      rw [allNodes] at tail ⊢
      rw [List.filterMap_cons, found, List.map_cons, consistent.keyed addr node found, tail]

theorem Consistent.allNodes_nodup (consistent : Consistent lb)
    (iterated : order.Perm lb.nodes.keys) : ((lb.allNodes order).map Node.addr).Nodup := by
  rw [consistent.allNodes_addrs fun addr member => iterated.mem_iff.mp member]
  exact iterated.nodup_iff.mpr lb.nodes.keys_nodup

theorem Consistent.enabled_length (consistent : Consistent lb)
    (iterated : order.Perm lb.nodes.keys) :
    ((lb.allNodes order).filter Node.enabled).length = lb.enabledNodes.dedup.length := by
  have perm : (((lb.allNodes order).filter Node.enabled).map Node.addr).Perm
      lb.enabledNodes.dedup := by
    have once := consistent.allNodes_nodup iterated
    rw [List.perm_ext_iff_of_nodup (once.sublist (List.filter_sublist.map Node.addr))
      (List.nodup_dedup _)]
    intro addr
    rw [List.mem_dedup, consistent.rotation addr, List.mem_map]
    constructor
    · rintro ⟨node, member, rfl⟩
      obtain ⟨listed, enabled⟩ := List.mem_filter.mp member
      obtain ⟨addr, found⟩ := (mem_allNodes iterated node).mp listed
      exact ⟨node, (consistent.keyed addr node found).symm ▸ found, enabled⟩
    · rintro ⟨node, found, enabled⟩
      exact ⟨node, List.mem_filter.mpr ⟨(mem_allNodes iterated node).mpr ⟨addr, found⟩, enabled⟩,
        consistent.keyed addr node found⟩
  rw [← perm.length_eq, List.length_map]

theorem insert_all (nodes : List Node) (held : AList fun _ : String => NodeMetrics)
    (once : (nodes.map Node.addr).Nodup) (addr : String) :
    (nodes.foldl (fun metrics node => metrics.insert node.addr node.metrics) held).lookup addr =
      ((nodes.find? fun node => node.addr == addr).map Node.metrics).or (held.lookup addr) := by
  induction nodes generalizing held with
  | nil => rfl
  | cons node rest ih =>
      obtain ⟨fresh, others⟩ := List.nodup_cons.mp once
      rw [List.foldl_cons, ih _ others, List.find?_cons, AList.lookup_insert_ite]
      by_cases same : node.addr = addr
      · have none' : rest.find? (fun node => node.addr == addr) = none := by
          refine List.find?_eq_none.mpr fun other member found => fresh ?_
          rw [same, ← beq_iff_eq.mp found]
          exact List.mem_map_of_mem member
        rw [none', if_pos same.symm, beq_iff_eq.mpr same]
        rfl
      · rw [if_neg (Ne.symm same), beq_eq_false_iff_ne.mpr same]

theorem Consistent.lookup_nodeMetrics (consistent : Consistent lb)
    (iterated : order.Perm lb.nodes.keys) (addr : String) :
    (lb.nodeMetrics order).lookup addr = (lb.nodes.lookup addr).map Node.metrics := by
  rw [nodeMetrics, insert_all _ _ (consistent.allNodes_nodup iterated), AList.lookup_empty,
    Option.or_none]
  congr 1
  cases found : lb.nodes.lookup addr with
  | none =>
      refine List.find?_eq_none.mpr fun node member same => ?_
      obtain ⟨other, here⟩ := (mem_allNodes iterated node).mp member
      rw [beq_iff_eq, consistent.keyed other node here] at same
      rw [same, found] at here
      cases here
  | some node =>
      have same : (node.addr == addr) = true := beq_iff_eq.mpr (consistent.keyed addr node found)
      have listed := (mem_allNodes iterated node).mpr ⟨addr, found⟩
      have some' : ((lb.allNodes order).find? fun node => node.addr == addr).isSome = true :=
        List.find?_isSome.mpr ⟨node, listed, same⟩
      obtain ⟨other, there⟩ := Option.isSome_iff_exists.mp some'
      have named : other.addr = addr :=
        beq_iff_eq.mp (List.find?_some (p := fun node : Node => node.addr == addr) there)
      obtain ⟨key, here⟩ := (mem_allNodes iterated other).mp (List.mem_of_find?_eq_some there)
      rw [consistent.keyed key other here] at named
      rw [named, found] at here
      rw [there, here]

/-! ## Information that is true of the balancer -/

/-- What is listed of a node tells its state: no text stands for two reasons or two states. -/
structure Shows (node : Node) (shown : OrchestratorNodeInfo) : Prop where
  enabled : shown.enabled = node.enabled
  reason : ∀ reason, shown.disableReason = some reason.debug ↔ node.disableReason = some reason
  unreasoned : shown.disableReason = none ↔ node.disableReason = none
  circuit : ∀ state, shown.circuitState = state.debug ↔ node.circuitState = state
  failures : shown.consecutiveFailures = node.consecutiveFailures

structure Reports (lb : LoadBalancer) (uptimeMs : UInt64) (info : OrchestratorInfo) : Prop where
  version : info.version = CARGO_PKG_VERSION
  uptime : info.uptimeMs = uptimeMs
  listed : ∀ shown ∈ info.nodes, ∃ node, lb.nodes.lookup shown.addr = some node ∧ Shows node shown
  total : info.totalNodes = lb.nodeCount
  counted : info.enabledNodes + info.disabledNodes = info.totalNodes
  enabled : info.enabledNodes = lb.enabledNodes.dedup.length
  addrs : (info.nodes.map OrchestratorNodeInfo.addr).Perm lb.nodes.keys
  rotation : ∀ node ∈ info.nodes, node.enabled = true ↔ node.addr ∈ lb.enabledNodes
  reasons : ∀ node ∈ info.nodes, node.enabled = true ↔ node.disableReason = none
  selected : ∀ now addr, (lb.nextNode now).2 = some addr →
    ∃ node ∈ info.nodes, node.addr = addr ∧ node.enabled = true ∧ node.circuitState ≠ "Open"
  exhausted : ∀ now, (lb.nextNode now).2 = none ↔
    ∀ node ∈ info.nodes, node.enabled = true → node.circuitState = "Open"

theorem debug_circuit_injective : Function.Injective CircuitBreakerState.debug := by
  intro state other
  cases state <;> cases other <;> decide

theorem debug_reason_injective : Function.Injective DisableReason.debug := by
  intro reason other
  cases reason <;> cases other <;> decide

theorem debug_opened (state : CircuitBreakerState) : state.debug = "Open" ↔ state = .opened :=
  debug_circuit_injective.eq_iff' rfl

theorem info_shows (node : Node) : Shows node node.info where
  enabled := rfl
  reason _ := (Option.map_injective debug_reason_injective).eq_iff' rfl
  unreasoned := Option.map_eq_none_iff
  circuit _ := debug_circuit_injective.eq_iff
  failures := rfl

theorem Consistent.mem_info (consistent : Consistent lb) (iterated : order.Perm lb.nodes.keys)
    (uptimeMs : UInt64) (info : OrchestratorNodeInfo) :
    info ∈ (lb.getInfo order uptimeMs).nodes ↔
      ∃ node, lb.nodes.lookup node.addr = some node ∧ node.info = info := by
  show info ∈ (lb.allNodes order).map Node.info ↔ _
  rw [List.mem_map]
  constructor
  · rintro ⟨node, member, rfl⟩
    obtain ⟨addr, found⟩ := (mem_allNodes iterated node).mp member
    exact ⟨node, consistent.lookup_own found, rfl⟩
  · rintro ⟨node, found, same⟩
    exact ⟨node, (mem_allNodes iterated node).mpr ⟨_, found⟩, same⟩

theorem Consistent.reports (consistent : Consistent lb) (iterated : order.Perm lb.nodes.keys)
    (uptimeMs : UInt64) : Reports lb uptimeMs (lb.getInfo order uptimeMs) where
  version := rfl
  uptime := rfl
  listed shown member := by
    obtain ⟨node, found, rfl⟩ := (consistent.mem_info iterated uptimeMs shown).mp member
    exact ⟨node, found, info_shows node⟩
  total := by
    have named := consistent.allNodes_addrs fun addr member => iterated.mem_iff.mp member
    show (lb.allNodes order).length = lb.nodeCount
    rw [← List.length_map (f := Node.addr), named, nodeCount, iterated.length_eq]
  counted := Nat.add_sub_cancel' (List.length_filter_le _ _)
  enabled := consistent.enabled_length iterated
  addrs := by
    have named := consistent.allNodes_addrs fun addr member => iterated.mem_iff.mp member
    show (((lb.allNodes order).map Node.info).map OrchestratorNodeInfo.addr).Perm lb.nodes.keys
    rw [List.map_map]
    exact named.symm ▸ iterated
  rotation info member := by
    obtain ⟨node, found, rfl⟩ := (consistent.mem_info iterated uptimeMs info).mp member
    refine Iff.trans ?_ (consistent.rotation node.addr).symm
    constructor
    · exact fun enabled => ⟨node, found, enabled⟩
    · rintro ⟨other, here, enabled⟩
      rw [found] at here
      cases here
      exact enabled
  reasons info member := by
    obtain ⟨node, found, rfl⟩ := (consistent.mem_info iterated uptimeMs info).mp member
    exact (consistent.reasons _ node found).trans Option.map_eq_none_iff.symm
  selected now addr returned := by
    rw [nextNode_correct, chosen_head] at returned
    obtain ⟨listed, ready⟩ := (mem_inTurn lb addr).mp (List.mem_of_mem_head? returned)
    obtain ⟨node, found, enabled⟩ := (consistent.rotation addr).mp listed
    refine ⟨node.info, (consistent.mem_info iterated uptimeMs _).mpr
      ⟨node, consistent.lookup_own found, rfl⟩, consistent.keyed addr node found, enabled, ?_⟩
    intro failing
    have opened := (debug_opened _).mp failing
    simp [selectable, circuitState, found, opened] at ready
  exhausted now := by
    rw [nextNode_correct]
    refine consistent.chosen_none_iff.trans ⟨fun opened info member enabled => ?_,
      fun opened addr listed => ?_⟩
    · obtain ⟨node, found, rfl⟩ := (consistent.mem_info iterated uptimeMs info).mp member
      have failing := opened node.addr ((consistent.rotation _).mpr ⟨node, found, enabled⟩)
      rw [circuitState, found] at failing
      exact (debug_opened _).mpr (Option.some.inj failing)
    · obtain ⟨node, found, enabled⟩ := (consistent.rotation addr).mp listed
      have failing := opened node.info
        ((consistent.mem_info iterated uptimeMs _).mpr
          ⟨node, consistent.lookup_own found, rfl⟩) enabled
      rw [circuitState, found]
      exact congrArg some ((debug_opened _).mp failing)

end

/-! ## The requests of a node since it was added -/

/-- The times at which requests went to a node, after one more operation. A node that is removed
and added again begins anew. -/
def serving (addr : String) (lb : LoadBalancer) (served : List SystemTime) :
    Operation → List SystemTime
  | .nextNode now => if (lb.nextNode now).2 = some addr then served ++ [now] else served
  | .removeNode other => if other = addr then [] else served
  | _ => served

def servings (addr : String) (lb : LoadBalancer) (operations : List Operation) :
    List SystemTime :=
  machine.history (fun lb operation served => lb.serving addr served operation) lb operations []

end LoadBalancer

def Node.requests (node : Node) : UInt64 × Option SystemTime :=
  (node.requestCount, node.lastRequestTime)

theorem Node.healthChecked_requests (config : CircuitBreakerConfig) (status : HealthCheckStatus)
    (checkedAt : Instant) (now : SystemTime) (node : Node) :
    (node.healthChecked config status checkedAt now).requests = node.requests := by
  unfold Node.healthChecked
  cases status with
  | healthy => simp only; split <;> rfl
  | unhealthy message => simp only; split <;> (try split) <;> rfl

theorem Node.timeoutChecked_requests (config : CircuitBreakerConfig) (now : SystemTime)
    (node : Node) : (node.timeoutChecked config now).1.requests = node.requests := by
  rcases node.timeoutChecked_cases config now with same | moved
  · rw [same]
  · rw [moved]
    rfl

namespace LoadBalancer

def Tallied (addr : String) (served : List SystemTime) (lb : LoadBalancer) : Prop :=
  match lb.nodes.lookup addr with
  | some node => node.requests = (UInt64.ofNat served.length, served.getLast?)
  | none => served = []

section

variable {addr : String} {served : List SystemTime} {lb after : LoadBalancer}

theorem Tallied.update (tallied : Tallied addr served lb) (update : Node → Node)
    (same : ∀ node, (update node).requests = node.requests)
    (found : after.nodes.lookup addr = (lb.nodes.lookup addr).map update) :
    Tallied addr served after := by
  rw [Tallied] at tallied ⊢
  rw [found]
  cases present : lb.nodes.lookup addr with
  | none =>
      rw [present] at tallied
      exact tallied
  | some node =>
      rw [present] at tallied
      exact (same node).trans tallied

theorem Tallied.updateOne (tallied : Tallied addr served lb) (target : String)
    (update : Node → Node) (same : ∀ node, (update node).requests = node.requests)
    (found : after.nodes.lookup addr =
      if addr = target then (lb.nodes.lookup addr).map update else lb.nodes.lookup addr) :
    Tallied addr served after := by
  by_cases here : addr = target
  · exact tallied.update update same (by rw [found, if_pos here])
  · exact tallied.update id (fun _ => rfl) (by rw [found, if_neg here, Option.map_id, id])

theorem Tallied.selected (tallied : Tallied addr served lb) (now : SystemTime) :
    Tallied addr (lb.serving addr served (.nextNode now)) (lb.afterSelection now) := by
  rw [serving, nextNode_correct]
  by_cases returned : lb.chosen = some addr
  · have ready : lb.selectable addr = true := by
      rw [chosen_head] at returned
      exact ((mem_inTurn lb addr).mp (List.mem_of_mem_head? returned)).2
    obtain ⟨state, there, _⟩ := (Option.any_eq_true ..).mp ready
    obtain ⟨node, present, _⟩ := Option.map_eq_some_iff.mp there
    rw [Tallied, present] at tallied
    rw [if_pos returned, Tallied, afterSelection_nodes, present, Option.map_some,
      if_pos returned, List.length_append, List.getLast?_concat, UInt64.ofNat_add]
    have counted : node.requestCount = UInt64.ofNat served.length := congrArg Prod.fst tallied
    show (node.requestCount + 1, some now) = _
    rw [counted]
    rfl
  · rw [if_neg returned]
    refine tallied.update id (fun _ => rfl) ?_
    rw [afterSelection_nodes]
    simp only [if_neg returned, Option.map_id']
    rw [Option.map_id, id]

theorem Tallied.perform (tallied : Tallied addr served lb) (operation : Operation) :
    Tallied addr (lb.serving addr served operation) (lb.perform operation).1 := by
  have change := perform_change lb operation
  generalize (lb.perform operation).1 = after, (lb.perform operation).2 = reply at change
  cases change with
  | select now => exact tallied.selected now
  | refused operation why =>
      cases operation with
      | nextNode | removeNode => cases why
      | _ => exact tallied
  | known => exact tallied
  | check target status checkedAt now =>
      exact tallied.updateOne target _
        (Node.healthChecked_requests lb.circuitConfig status checkedAt now)
        (updateHealthStatus_lookup lb target addr status checkedAt now)
  | timeouts now =>
      exact tallied.update _ (Node.timeoutChecked_requests lb.circuitConfig (now addr))
        (checkCircuitTimeouts_lookup lb addr now)
  | disabled target | autoDisabled target =>
      exact tallied.updateOne target (Node.disabledFor _) (fun _ => rfl)
        (leaveRotation_lookup lb target addr _)
  | enabled target | autoEnabled target =>
      exact tallied.updateOne target Node.reenabled (fun _ => rfl)
        (joinRotation_lookup lb target addr)
  | added target absent =>
      by_cases here : addr = target
      · subst here
        rw [Tallied, AList.lookup_eq_none.mpr absent] at tallied
        obtain rfl : served = [] := tallied
        simp [Tallied, serving, Node.new, Node.requests]
      · refine tallied.update id (fun _ => rfl) ?_
        rw [Option.map_id, id]
        exact AList.lookup_insert_ne here
  | removed target =>
      rw [serving]
      by_cases here : target = addr
      · subst here
        simp [Tallied]
      · rw [if_neg here]
        refine tallied.update id (fun _ => rfl) ?_
        rw [Option.map_id, id, removeNode_lookup, if_neg (Ne.symm here)]

theorem Tallied.run (tallied : Tallied addr [] lb) (operations : List Operation) :
    Tallied addr (servings addr lb operations) (machine.run lb operations) :=
  machine.run_history _ (Tallied addr) (fun _ _ => True)
    (fun _ operation _ tallied _ => tallied.perform operation) lb operations [] tallied
    (machine.eachStep_of_forall _ lb operations fun _ _ => trivial)

theorem Tallied.metrics {node : Node} (tallied : Tallied addr served lb)
    (found : lb.nodes.lookup addr = some node) :
    node.metrics = ⟨node.addr, .ofNat served.length,
      (served.getLast?.map SystemTime.unixMs).getD 0⟩ := by
  rw [Tallied, found] at tallied
  have counted : node.requestCount = UInt64.ofNat served.length := congrArg Prod.fst tallied
  have last : node.lastRequestTime = served.getLast? := congrArg Prod.snd tallied
  rw [Node.metrics, counted, last]

theorem withConfig_tallied (nodeAddrs : List String) (config : CircuitBreakerConfig)
    (addr : String) : Tallied addr [] (withConfig nodeAddrs config) := by
  rw [Tallied, withConfig, AList.lookup_ofKeys]
  split
  next node found =>
    split at found
    next =>
      cases found
      rfl
    next => cases found
  next => rfl

end

end LoadBalancer

namespace Orchestrator

theorem run_pool_consistent (nodeAddrs : List String) (circuitConfig : CircuitBreakerConfig)
    (healthConfig : HealthCheckConfig) (steps : List OrchestratorStep) :
    (machine.run (start (.withConfig nodeAddrs circuitConfig) healthConfig)
      steps).loadBalancer.Consistent :=
  run_balancer_consistent _ steps (LoadBalancer.withConfig_consistent nodeAddrs circuitConfig)

theorem info_reports (nodeAddrs : List String) (circuitConfig : CircuitBreakerConfig)
    (healthConfig : HealthCheckConfig) (steps : List OrchestratorStep) (order : List String)
    (uptimeMs : UInt64)
    (iterated : order.Perm (machine.run (start (.withConfig nodeAddrs circuitConfig) healthConfig)
      steps).loadBalancer.nodes.keys) :
    ∃ info, getInfo order uptimeMs (machine.run
          (start (.withConfig nodeAddrs circuitConfig) healthConfig) steps).loadBalancer =
        .orchestrator info ∧
      LoadBalancer.Reports (machine.run
        (start (.withConfig nodeAddrs circuitConfig) healthConfig) steps).loadBalancer uptimeMs
        info :=
  ⟨_, rfl,
    (run_pool_consistent nodeAddrs circuitConfig healthConfig steps).reports iterated uptimeMs⟩

/-! A node that is disabled by hand, removed and registered anew. -/

def readded : List OrchestratorStep :=
  [.call (.nextNode 5000000), .call (.disableNode "http://a"), .call (.nextNode 9000000),
    .call (.removeNode "http://b"), .registerNode "http://b", .call (.nextNode 12000000)]

theorem info_reports_witness :
    ∃ info, getInfo ["http://b", "http://a"] 7 (machine.run
          (start (.withConfig ["http://a", "http://b"] .default) .default) readded).loadBalancer =
        .orchestrator info ∧
      LoadBalancer.Reports (machine.run
        (start (.withConfig ["http://a", "http://b"] .default) .default) readded).loadBalancer 7
        info :=
  info_reports ["http://a", "http://b"] .default .default readded ["http://b", "http://a"] 7
    (by decide)

theorem metrics_report_servings (nodeAddrs : List String) (circuitConfig : CircuitBreakerConfig)
    (healthConfig : HealthCheckConfig) (steps : List OrchestratorStep) (order : List String)
    (registry : MetricsRegistry) (activeConnections uptimeMs : UInt64)
    (iterated : order.Perm (machine.run (start (.withConfig nodeAddrs circuitConfig) healthConfig)
      steps).loadBalancer.nodes.keys) :
    ∃ nodes, (getMetrics order registry activeConnections uptimeMs (machine.run
        (start (.withConfig nodeAddrs circuitConfig) healthConfig) steps).loadBalancer).nodes =
      some nodes ∧
      ∀ addr, nodes.lookup addr =
        if addr ∈ (machine.run (start (.withConfig nodeAddrs circuitConfig) healthConfig)
            steps).loadBalancer.nodes then
          let served := LoadBalancer.servings addr (.withConfig nodeAddrs circuitConfig)
            (trace (start (.withConfig nodeAddrs circuitConfig) healthConfig) steps)
          some ⟨addr, .ofNat served.length, (served.getLast?.map SystemTime.unixMs).getD 0⟩
        else none := by
  refine ⟨_, rfl, fun addr => ?_⟩
  have consistent := run_pool_consistent nodeAddrs circuitConfig healthConfig steps
  have tallied := (LoadBalancer.withConfig_tallied nodeAddrs circuitConfig addr).run
    (trace (start (.withConfig nodeAddrs circuitConfig) healthConfig) steps)
  have same : (machine.run (start (.withConfig nodeAddrs circuitConfig) healthConfig)
      steps).loadBalancer = LoadBalancer.machine.run (.withConfig nodeAddrs circuitConfig)
        (trace (start (.withConfig nodeAddrs circuitConfig) healthConfig) steps) :=
    run_correct _ steps
  rw [← same] at tallied
  rw [consistent.lookup_nodeMetrics iterated]
  split
  next present =>
    obtain ⟨node, found⟩ := Option.isSome_iff_exists.mp (AList.lookup_isSome.mpr present)
    rw [found, Option.map_some, tallied.metrics found, consistent.keyed addr node found]
  next absent =>
    rw [AList.lookup_eq_none.mpr absent]
    rfl

theorem metrics_report_servings_witness :
    ∃ nodes, (getMetrics ["http://b", "http://a"] (.withConfig .default .initial) 0 7
        (machine.run (start (.withConfig ["http://a", "http://b"] .default) .default)
          readded).loadBalancer).nodes = some nodes ∧
      nodes.lookup "http://b" = some ⟨"http://b", 1, 12⟩ := by
  obtain ⟨nodes, shown, found⟩ := metrics_report_servings ["http://a", "http://b"] .default
    .default readded ["http://b", "http://a"] (.withConfig .default .initial) 0 7 (by decide)
  exact ⟨nodes, shown, (found "http://b").trans (by decide)⟩

end Orchestrator

end MadRpc
