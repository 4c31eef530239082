import MadRpc.Orchestrator.Circuit
import MadRpc.Orchestrator.Fairness
import MadRpc.Orchestrator.HealthRounds
import MadRpc.Server.Calls

set_option autoImplicit false

namespace MadRpc

/-! ## The check of one node -/

/-- `value[key]`, which is null where there is nothing. -/
def Value.index (key : String) : Value → Value
  | .object members => (members.lookup key).getD .null
  | _ => .null

namespace HealthChecker

/-- A client can always be made. The call may still go on when its time is over. -/
def checkNodeHealth (display : Value → String) (timeoutMs : UInt64)
    (network : String → Nat → Exchange) (inTime : Bool) (addr : String) :
    Except MadrpcError Unit :=
  if inTime then
    match (MadrpcClient.call .default (network (Orchestrator.baseUrl addr))).result with
    | .ok response =>
        if (response.index "status").string? = some "healthy" then .ok ()
        else
          .error (.nodeUnavailable
            ("Health check returned unexpected status: " ++ display response))
    | .error e => .error e
  else .error (.timeout timeoutMs)

def network (procedures : Procedures) (posts : String → Nat → ServerPost) (url : String)
    (made : Nat) : Exchange :=
  (posts url made).exchange procedures "_health"

def Passes (procedures : Procedures) (posts : Nat → ServerPost) : Prop :=
  ∃ server, ServerPost.answered procedures "_health" posts = some server ∧
    server.serverType = .node

theorem checkNodeHealth_passes (display : Value → String) (timeoutMs : UInt64)
    (procedures : Procedures) (posts : String → Nat → ServerPost) (addr : String)
    (passes : Passes procedures (posts (Orchestrator.baseUrl addr))) :
    checkNodeHealth display timeoutMs (network procedures posts) true addr = .ok () := by
  obtain ⟨server, answered, node⟩ := passes
  rcases ServerPost.called_cases procedures "_health" (posts (Orchestrator.baseUrl addr)) with
    ⟨made, here, told⟩ | ⟨missing, -⟩
  · obtain rfl := Option.some.inj (here.symm.trans answered)
    have result : (MadrpcClient.call .default
        (network procedures posts (Orchestrator.baseUrl addr))).result =
          .ok HealthResponse.healthy.serialize := told _ fun req =>
      (posts (Orchestrator.baseUrl addr) made).server.handleRequest_health procedures req node
    simp only [checkNodeHealth, if_true, result]
    rfl
  · exact absurd (missing.symm.trans answered) nofun

end HealthChecker

/-! ## What leaves a node in service -/

/-- What neither requests nor passed checks take from a node. -/
structure Node.Kept (holds : Node → Prop) : Prop where
  served : ∀ node now, holds node → holds (node.served now)
  reenabled : ∀ node, holds node → holds node.reenabled
  timeoutChecked : ∀ node config now, holds node → holds (node.timeoutChecked config now).1
  healthChecked : ∀ node config checkedAt now, holds node →
    holds (node.healthChecked config .healthy checkedAt now)

structure Node.InService (node : Node) : Prop where
  enabled : node.enabled = true
  free : node.disableReason = none
  unfailed : node.consecutiveFailures = 0
  unopened : node.circuitState ≠ .opened

namespace Node.InService

variable {node : Node}

theorem new (addr : String) : (Node.new addr).InService := ⟨rfl, rfl, rfl, nofun⟩

theorem timeoutChecked (inService : node.InService) (config : CircuitBreakerConfig)
    (now : SystemTime) : (node.timeoutChecked config now).1.InService := by
  have early : ¬ node.Due config now := fun due => inService.unopened due.1
  rw [Node.timeoutChecked_not_due early]
  exact inService

theorem healthChecked (inService : node.InService) (config : CircuitBreakerConfig)
    (checkedAt : Instant) (now : SystemTime) :
    (node.healthChecked config .healthy checkedAt now).InService := by
  obtain ⟨-, enabled, free⟩ := node.healthChecked_membership config .healthy checkedAt now
  refine ⟨enabled.trans inService.enabled, free.trans inService.free,
    node.healthChecked_healthy config checkedAt now, ?_⟩
  simp only [Node.healthChecked]
  split
  next =>
    intro opened
    cases opened
  next => exact inService.unopened

theorem kept : Node.Kept Node.InService where
  served _ _ inService :=
    ⟨inService.enabled, inService.free, inService.unfailed, inService.unopened⟩
  reenabled _ inService := ⟨rfl, rfl, rfl, inService.unopened⟩
  timeoutChecked _ config now inService := inService.timeoutChecked config now
  healthChecked _ config checkedAt now inService := inService.healthChecked config checkedAt now

end Node.InService

namespace LoadBalancer

def Holds (holds : Node → Prop) (addr : String) (lb : LoadBalancer) : Prop :=
  ∃ node, lb.nodes.lookup addr = some node ∧ holds node

def InService (addr : String) : LoadBalancer → Prop := Holds Node.InService addr

def Harmless (addr : String) : Operation → Prop
  | .disableNode other | .autoDisableNode other | .removeNode other => other ≠ addr
  | .updateHealthStatus other status _ _ => other = addr → status = .healthy
  | _ => True

section

variable {addr : String} {lb after : LoadBalancer} {holds : Node → Prop}

theorem withConfig_inService {nodeAddrs : List String} (listed : addr ∈ nodeAddrs)
    (config : CircuitBreakerConfig) : InService addr (withConfig nodeAddrs config) := by
  refine ⟨Node.new addr, ?_, .new addr⟩
  rw [withConfig, AList.lookup_ofKeys, if_pos listed]

theorem Holds.update (here : Holds holds addr lb) (update : Node → Node)
    (found : after.nodes.lookup addr = (lb.nodes.lookup addr).map update)
    (keeps : ∀ node : Node, holds node → holds (update node)) : Holds holds addr after := by
  obtain ⟨node, there, held⟩ := here
  exact ⟨update node, by rw [found, there, Option.map_some], keeps node held⟩

theorem Holds.updateOne (here : Holds holds addr lb) (target : String) (update : Node → Node)
    (found : after.nodes.lookup addr =
      if addr = target then (lb.nodes.lookup addr).map update else lb.nodes.lookup addr)
    (keeps : addr = target → ∀ node : Node, holds node → holds (update node)) :
    Holds holds addr after := by
  by_cases same : addr = target
  · exact here.update update (by rw [found, if_pos same]) (keeps same)
  · exact here.update id (by rw [found, if_neg same, Option.map_id, id]) fun _ => id

theorem Holds.perform (kept : Node.Kept holds) (here : Holds holds addr lb)
    (operation : Operation) (harmless : Harmless addr operation) :
    Holds holds addr (lb.perform operation).1 := by
  have change := perform_change lb operation
  generalize (lb.perform operation).1 = after, (lb.perform operation).2 = reply at change
  cases change with
  | select now =>
      obtain ⟨update, which, updated⟩ := afterSelection_lookup lb now addr
      refine here.update update updated fun node held => ?_
      rcases which with rfl | rfl
      · exact held
      · exact kept.served node now held
  | refused => exact here
  | known => exact here
  | check target status checkedAt now =>
      refine here.updateOne target _
        (updateHealthStatus_lookup lb target addr status checkedAt now) fun same node held => ?_
      rw [harmless same.symm]
      exact kept.healthChecked node lb.circuitConfig checkedAt now held
  | timeouts now =>
      exact here.update _ (checkCircuitTimeouts_lookup lb addr now)
        fun node held => kept.timeoutChecked node lb.circuitConfig (now addr) held
  | disabled target | autoDisabled target =>
      exact here.updateOne target _ (leaveRotation_lookup lb target addr _)
        fun same => absurd same.symm harmless
  | enabled target | autoEnabled target =>
      exact here.updateOne target _ (joinRotation_lookup lb target addr)
        fun _ node held => kept.reenabled node held
  | added target absent =>
      obtain ⟨node, there, held⟩ := here
      have other : addr ≠ target := by
        rintro rfl
        exact absent (AList.lookup_isSome.mp (by rw [there]; rfl))
      exact ⟨node, (AList.lookup_insert_ne other).trans there, held⟩
  | removed target =>
      refine here.updateOne target id ?_ fun same => absurd same.symm harmless
      rw [removeNode_lookup, if_neg harmless.symm, if_neg harmless.symm]

theorem InService.perform (inService : InService addr lb) (operation : Operation)
    (harmless : Harmless addr operation) : InService addr (lb.perform operation).1 :=
  Holds.perform Node.InService.kept inService operation harmless

theorem InService.listed (inService : InService addr lb) (consistent : Consistent lb) :
    addr ∈ lb.enabledNodes := by
  obtain ⟨node, here, serving⟩ := inService
  exact (consistent.rotation addr).mpr ⟨node, here, serving.enabled⟩

theorem InService.unopened (inService : InService addr lb) :
    lb.circuitState addr ≠ some .opened := by
  obtain ⟨node, here, serving⟩ := inService
  rw [circuitState, here]
  exact fun opened => serving.unopened (Option.some.inj opened)

theorem InService.run (inService : InService addr lb) (operations : List Operation)
    (harmless : ∀ operation ∈ operations, Harmless addr operation) :
    machine.Throughout (InService addr) lb operations :=
  machine.throughout_of_steps (InService addr) (fun _ => Harmless addr)
    (fun _ operation inService harmless => inService.perform operation harmless) lb operations
    inService (machine.eachStep_of_forall _ lb operations harmless)

theorem InService.selections_some (inService : InService addr lb) (consistent : Consistent lb)
    (operations : List Operation) (harmless : ∀ operation ∈ operations, Harmless addr operation) :
    none ∉ selections lb operations := by
  induction operations generalizing lb with
  | nil => exact List.not_mem_nil
  | cons operation rest ih =>
      obtain ⟨here, others⟩ := List.forall_mem_cons.mp harmless
      have later := ih (inService.perform operation here)
        (perform_consistent lb operation consistent) others
      cases call : operation.isNextNode with
      | true =>
          obtain ⟨now, rfl⟩ := Operation.isNextNode_iff.mp call
          rw [perform_nextNode] at later
          rw [selections_nextNode]
          refine List.not_mem_cons_of_ne_of_not_mem (fun exhausted => ?_) later
          exact inService.unopened
            (consistent.chosen_none_iff.mp exhausted.symm addr (inService.listed consistent))
      | false =>
          rw [selections_other lb operation rest call]
          exact later

theorem InService.selected (inService : InService addr lb) (consistent : Consistent lb)
    (operations : List Operation) (harmless : ∀ operation ∈ operations, Harmless addr operation)
    (rotation : List String)
    (steady : machine.Throughout (fun lb => lb.enabledNodes = rotation) lb operations)
    (first : Nat) (enough : first + rotation.length ≤ (selections lb operations).length) :
    some addr ∈ ((selections lb operations).drop first).take rotation.length := by
  have listed := inService.listed consistent
  rw [steady.first] at listed
  obtain ⟨position, here⟩ := List.mem_iff_getElem?.mp listed
  have within := (List.getElem?_eq_some_iff.mp here).1
  have ready := views_ready lb operations rotation position addr here consistent steady
    (machine.eachStep_of_invariant (InService addr) (fun _ => Harmless addr)
      (fun lb operation => operation.isNextNode → lb.circuitState addr ≠ some .opened)
      (fun _ operation inService harmless => inService.perform operation harmless)
      (fun _ _ inService _ _ => inService.unopened) lb operations inService
      (machine.eachStep_of_forall _ lb operations harmless))
  rw [selections_ring lb operations rotation steady] at enough ⊢
  rw [List.length_map, Machine.outputs_length] at enough
  rw [← List.map_drop, ← List.map_take, Machine.outputs_drop, Machine.outputs_take]
  refine List.mem_map.mpr ⟨some position, RoundRobin.ring_waits _ _ _ _ within ?_ ?_, here⟩
  · intro available member
    exact ready available (List.mem_of_mem_drop (List.mem_of_mem_take member))
  · rw [List.length_take, List.length_drop, Nat.min_eq_left (by omega)]
    exact RoundRobin.distance_lt _ _ _ (Nat.mod_lt _ (Nat.lt_of_le_of_lt (Nat.zero_le _) within))
      within

end

end LoadBalancer

/-! ## The health checker among the callers -/

namespace Orchestrator

def Unthreatened (addr : String) (state : Orchestrator) : Prop :=
  ∀ update pending, state.checker = .applying update pending → update.nodeAddr = addr →
    update.status = .healthy ∧ update.shouldDisable = false

section

variable (display : Value → String) (timeoutMs : UInt64) (procedures : Procedures)
  (addr : String)

/-- Nobody acts against the node, and it passes every check that is made of it. -/
def Spares (state : Orchestrator) : OrchestratorStep → Prop
  | .call operation => LoadBalancer.Harmless addr operation
  | .processResult result =>
      ∀ node pending, state.checker = .processing (node :: pending) → node.addr = addr →
        ∃ posts, HealthChecker.Passes procedures (posts (baseUrl addr)) ∧
          result = HealthChecker.checkNodeHealth display timeoutMs
            (HealthChecker.network procedures posts) true addr
  | _ => True

end

section

variable {display : Value → String} {timeoutMs : UInt64} {procedures : Procedures}
  {addr : String} {state : Orchestrator}

theorem Unthreatened.step (unthreatened : Unthreatened addr state) (step : OrchestratorStep)
    (spares : Spares display timeoutMs procedures addr state step) :
    Unthreatened addr (state.step step).1 := by
  cases step with
  | call | registerNode => exact unthreatened
  | checkTimeouts now =>
      simp only [Orchestrator.step]
      split
      next =>
        intro _ _ applying
        cases applying
      next => exact unthreatened
  | snapshot order =>
      simp only [Orchestrator.step]
      split
      next =>
        split
        next =>
          intro _ _ applying
          cases applying
        next => exact unthreatened
      next => exact unthreatened
  | processResult result =>
      simp only [Orchestrator.step]
      split
      next node pending processing =>
        rintro _ _ ⟨⟩ same
        have target : node.addr = addr := by
          rwa [processHealthResult_nodeAddr] at same
        obtain ⟨posts, passes, rfl⟩ := spares node pending processing target
        rw [HealthChecker.checkNodeHealth_passes display timeoutMs procedures posts addr passes]
        exact ⟨rfl, rfl⟩
      next => exact unthreatened
  | applyUpdate checkedAt now =>
      simp only [Orchestrator.step]
      split
      next =>
        intro _ _ applying
        cases applying
      next => exact unthreatened

theorem Unthreatened.operations (unthreatened : Unthreatened addr state)
    (step : OrchestratorStep) (spares : Spares display timeoutMs procedures addr state step) :
    ∀ operation ∈ state.operations step, LoadBalancer.Harmless addr operation := by
  cases step with
  | call operation => exact List.forall_mem_singleton.mpr spares
  | registerNode nodeUrl =>
      simp only [Orchestrator.operations]
      split <;> simp [LoadBalancer.Harmless]
  | checkTimeouts now =>
      simp only [Orchestrator.operations]
      split <;> simp [LoadBalancer.Harmless]
  | snapshot | processResult => exact fun _ none' => absurd none' List.not_mem_nil
  | applyUpdate checkedAt now =>
      simp only [Orchestrator.operations]
      split
      next update pending applying =>
        have sound := unthreatened update pending applying
        intro operation member
        simp only [HealthCheckUpdate.operations, List.mem_append, List.mem_singleton,
          List.mem_ite_nil_right] at member
        rcases member with (rfl | ⟨-, rfl⟩) | ⟨disables, rfl⟩
        · exact fun same => (sound same).1
        · trivial
        · intro same
          rw [(sound same).2] at disables
          cases disables
      next => exact fun _ none' => absurd none' List.not_mem_nil

theorem Unthreatened.trace (unthreatened : Unthreatened addr state)
    (steps : List OrchestratorStep)
    (spared : machine.EachStep (Spares display timeoutMs procedures addr) state steps) :
    ∀ operation ∈ trace state steps, LoadBalancer.Harmless addr operation := by
  induction steps generalizing state with
  | nil => exact fun _ none' => absurd none' List.not_mem_nil
  | cons step rest ih =>
      rw [Orchestrator.trace]
      refine List.forall_mem_append.mpr ⟨unthreatened.operations step spared.1, ?_⟩
      exact ih (unthreatened.step step spared.1) spared.2

end

/-- Whatever becomes of the other nodes, one that passes its checks is never taken out, there is
always a node to select, and one round of the rotation comes to it. -/
theorem live_node_served (display : Value → String) (timeoutMs : UInt64)
    (procedures : Procedures) (nodeAddrs : List String) (circuitConfig : CircuitBreakerConfig)
    (healthConfig : HealthCheckConfig) (history steps : List OrchestratorStep) (addr : String)
    (state : Orchestrator)
    (reached : machine.run (start (.withConfig nodeAddrs circuitConfig) healthConfig) history =
      state)
    (inService : state.loadBalancer.InService addr) (unthreatened : Unthreatened addr state)
    (spared : machine.EachStep (Spares display timeoutMs procedures addr) state steps) :
    LoadBalancer.machine.Throughout (LoadBalancer.InService addr) state.loadBalancer
        (trace state steps) ∧
      none ∉ LoadBalancer.selections state.loadBalancer (trace state steps) ∧
      ∀ rotation, LoadBalancer.machine.Throughout (fun lb => lb.enabledNodes = rotation)
          state.loadBalancer (trace state steps) →
        ∀ first, first + rotation.length ≤
            (LoadBalancer.selections state.loadBalancer (trace state steps)).length →
          some addr ∈ ((LoadBalancer.selections state.loadBalancer
            (trace state steps)).drop first).take rotation.length := by
  have harmless := unthreatened.trace steps spared
  have consistent : state.loadBalancer.Consistent := by
    rw [← reached]
    exact run_balancer_consistent _ history
      (LoadBalancer.withConfig_consistent nodeAddrs circuitConfig)
  exact ⟨inService.run _ harmless, inService.selections_some consistent _ harmless,
    fun rotation steady first enough =>
      inService.selected consistent _ harmless rotation steady first enough⟩

/-! One node answers and the other does not, until its circuit opens. -/

def brittle : CircuitBreakerConfig := { CircuitBreakerConfig.default with failureThreshold := 1 }

def healthyNode (_ : Nat) : ServerPost :=
  ⟨.node (.withConfig .default .initial) 0 7, .answered, 1⟩

def failingRound : List OrchestratorStep :=
  [.checkTimeouts fun _ => 0, .snapshot ["http://a", "http://b"], .processResult (.ok ()),
    .call (.nextNode 1), .applyUpdate 1 1,
    .processResult (.error (.transport "HTTP request failed: connection refused")),
    .applyUpdate 2 2, .call (.nextNode 3)]

def CheckerPhase.nextAddr : CheckerPhase → String
  | .processing (node :: _) => node.addr
  | _ => ""

theorem failingRound_spared :
    machine.EachStep (Spares (fun _ => "null") 2000 .idle "http://a")
      (start (.withConfig ["http://a", "http://b"] brittle) .default) failingRound := by
  refine ⟨trivial, trivial, fun _ _ _ _ => ⟨fun _ => healthyNode, ⟨_, rfl, rfl⟩, rfl⟩,
    trivial, trivial,
    fun node pending processing same => ?_, trivial, trivial, trivial⟩
  have other : "http://b" = node.addr := congrArg CheckerPhase.nextAddr processing
  rw [← other] at same
  exact absurd same (by decide)

theorem live_node_served_witness :
    some "http://a" ∈ ((LoadBalancer.selections (.withConfig ["http://a", "http://b"] brittle)
      (trace (start (.withConfig ["http://a", "http://b"] brittle) .default)
        failingRound)).drop 0).take 2 :=
  (live_node_served (fun _ => "null") 2000 .idle ["http://a", "http://b"] brittle .default
    [] failingRound "http://a" _ rfl (LoadBalancer.withConfig_inService (by decide) _)
    (fun _ _ applying => nomatch applying) failingRound_spared).2.2 ["http://a", "http://b"]
    (by decide) 0 (by decide)

end Orchestrator

end MadRpc
