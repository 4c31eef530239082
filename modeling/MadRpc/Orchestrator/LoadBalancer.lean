import MadRpc.Orchestrator.Node
import MadRpc.Shared.Machine
import MadRpc.Shared.Table

set_option autoImplicit false

namespace MadRpc

structure LoadBalancer where
  nodes : AList fun _ : String => Node
  enabledNodes : List String
  roundRobinIndex : Nat
  circuitConfig : CircuitBreakerConfig

def Node.served (now : SystemTime) (node : Node) : Node :=
  { node with requestCount := node.requestCount + 1, lastRequestTime := some now }

def Node.disabledFor (reason : DisableReason) (node : Node) : Node :=
  { node with enabled := false, disableReason := some reason }

def Node.reenabled (node : Node) : Node :=
  { node with enabled := true, disableReason := none, consecutiveFailures := 0 }

def Node.healthChecked (config : CircuitBreakerConfig) (status : HealthCheckStatus)
    (checkedAt : Instant) (now : SystemTime) (node : Node) : Node :=
  let node := { node with lastHealthCheck := some checkedAt, lastHealthCheckStatus := some status }
  match status with
  | .healthy =>
      let node := { node with consecutiveFailures := 0 }
      if node.circuitState = .halfOpen then node.transitionCircuitState .closed now else node
  | .unhealthy _ =>
      -- The count wraps at its width.
      let node := { node with consecutiveFailures := node.consecutiveFailures + 1 }
      match node.circuitState with
      | .closed =>
          if config.failureThreshold ≤ node.consecutiveFailures then
            node.transitionCircuitState .opened now
          else node
      | .halfOpen => node.transitionCircuitState .opened now
      | .opened => node

def Node.timeoutChecked (config : CircuitBreakerConfig) (now : SystemTime) (node : Node) :
    Node × Bool :=
  if node.shouldAttemptHalfOpen config now then node.tryTransitionToHalfOpen else (node, false)

namespace LoadBalancer

def withConfig (nodeAddrs : List String) (circuitConfig : CircuitBreakerConfig) :
    LoadBalancer where
  nodes := AList.ofKeys Node.new nodeAddrs
  -- Repeated addresses stay repeated here.
  enabledNodes := nodeAddrs
  roundRobinIndex := 0
  circuitConfig := circuitConfig

def new (nodeAddrs : List String) : LoadBalancer := withConfig nodeAddrs .default

def nextNodeLoop (now : SystemTime) : Nat → LoadBalancer → LoadBalancer × Option String
  | 0, lb => (lb, none)
  | remaining + 1, lb =>
      let idx := lb.roundRobinIndex % lb.enabledNodes.length
      -- The index stays below the length of a `Vec`, so `wrapping_add` does not wrap.
      let lb := { lb with roundRobinIndex := (lb.roundRobinIndex + 1) % lb.enabledNodes.length }
      match lb.enabledNodes[idx]? with
      | none => (lb, none)
      | some addr =>
          match lb.nodes.lookup addr with
          -- A listed address that the map does not hold is passed over.
          | none => nextNodeLoop now remaining lb
          | some node =>
              if node.circuitState ≠ .opened then
                ({ lb with nodes := lb.nodes.modify addr (Node.served now) }, some addr)
              else nextNodeLoop now remaining lb

def nextNode (lb : LoadBalancer) (now : SystemTime) : LoadBalancer × Option String :=
  if lb.enabledNodes.isEmpty then (lb, none)
  else nextNodeLoop now lb.enabledNodes.length lb

def leaveRotation (lb : LoadBalancer) (addr : String) (reason : DisableReason) : LoadBalancer :=
  { lb with
    nodes := lb.nodes.modify addr (Node.disabledFor reason)
    enabledNodes := lb.enabledNodes.filter (· ≠ addr) }

def joinRotation (lb : LoadBalancer) (addr : String) : LoadBalancer :=
  { lb with
    nodes := lb.nodes.modify addr Node.reenabled
    enabledNodes :=
      if addr ∈ lb.enabledNodes then lb.enabledNodes else lb.enabledNodes ++ [addr] }

def disableNode (lb : LoadBalancer) (addr : String) : LoadBalancer × Bool :=
  match lb.nodes.lookup addr with
  | some _ => (lb.leaveRotation addr .manual, true)
  | none => (lb, false)

def enableNode (lb : LoadBalancer) (addr : String) : LoadBalancer × Bool :=
  match lb.nodes.lookup addr with
  | some _ => (lb.joinRotation addr, true)
  | none => (lb, false)

def autoDisableNode (lb : LoadBalancer) (addr : String) : LoadBalancer × Bool :=
  match lb.nodes.lookup addr with
  | some node =>
      -- A node that is enabled, or disabled by an earlier check, is disabled all the same.
      if node.disableReason ≠ some .manual then (lb.leaveRotation addr .healthCheck, true)
      else (lb, false)
  | none => (lb, false)

def autoEnableNode (lb : LoadBalancer) (addr : String) : LoadBalancer × Bool :=
  match lb.nodes.lookup addr with
  | some node =>
      if node.disableReason = some .healthCheck then (lb.joinRotation addr, true)
      else (lb, false)
  | none => (lb, false)

def updateHealthStatus (lb : LoadBalancer) (addr : String) (status : HealthCheckStatus)
    (checkedAt : Instant) (now : SystemTime) : LoadBalancer :=
  { lb with
    nodes := lb.nodes.modify addr (Node.healthChecked lb.circuitConfig status checkedAt now) }

def checkCircuitTimeouts (lb : LoadBalancer) (now : String → SystemTime) : LoadBalancer × Bool :=
  -- Each node is compared with a clock reading of its own.
  ({ lb with
      nodes := lb.nodes.mapVal fun addr node =>
        (node.timeoutChecked lb.circuitConfig (now addr)).1 },
    lb.nodes.entries.any fun entry =>
      (entry.2.timeoutChecked lb.circuitConfig (now entry.1)).2)

def circuitState (lb : LoadBalancer) (addr : String) : Option CircuitBreakerState :=
  (lb.nodes.lookup addr).map Node.circuitState

def consecutiveFailures (lb : LoadBalancer) (addr : String) : UInt32 :=
  ((lb.nodes.lookup addr).map Node.consecutiveFailures).getD 0

def allNodes (lb : LoadBalancer) (order : List String) : List Node :=
  -- The map is iterated in whatever order it has.
  order.filterMap lb.nodes.lookup

def addNode (lb : LoadBalancer) (nodeAddr : String) : LoadBalancer :=
  if nodeAddr ∈ lb.nodes then lb
  else
    { lb with
      nodes := lb.nodes.insert nodeAddr (Node.new nodeAddr)
      enabledNodes := lb.enabledNodes ++ [nodeAddr] }

def removeNode (lb : LoadBalancer) (nodeAddr : String) : LoadBalancer :=
  { lb with
    nodes := lb.nodes.erase nodeAddr
    enabledNodes := lb.enabledNodes.filter (· ≠ nodeAddr) }

section Updates

variable (lb : LoadBalancer) (addr other : String)

@[simp]
theorem leaveRotation_lookup (reason : DisableReason) :
    (lb.leaveRotation addr reason).nodes.lookup other =
      if other = addr then (lb.nodes.lookup other).map (Node.disabledFor reason)
      else lb.nodes.lookup other :=
  AList.lookup_modify addr (Node.disabledFor reason) lb.nodes other

@[simp]
theorem mem_leaveRotation (reason : DisableReason) :
    other ∈ (lb.leaveRotation addr reason).enabledNodes ↔
      other ∈ lb.enabledNodes ∧ other ≠ addr := by
  simp [leaveRotation]

@[simp]
theorem joinRotation_lookup :
    (lb.joinRotation addr).nodes.lookup other =
      if other = addr then (lb.nodes.lookup other).map Node.reenabled
      else lb.nodes.lookup other :=
  AList.lookup_modify addr Node.reenabled lb.nodes other

@[simp]
theorem mem_joinRotation :
    other ∈ (lb.joinRotation addr).enabledNodes ↔ other = addr ∨ other ∈ lb.enabledNodes := by
  -- Whether `contains` finds the address or it is pushed, it is listed afterwards.
  unfold joinRotation
  by_cases listed : addr ∈ lb.enabledNodes
  · simp only [listed, if_true]
    exact ⟨.inr, fun either => either.elim (fun same => same ▸ listed) id⟩
  · simp [listed, or_comm]

theorem joinRotation_nodup (distinct : lb.enabledNodes.Nodup) :
    (lb.joinRotation addr).enabledNodes.Nodup := by
  unfold joinRotation
  by_cases listed : addr ∈ lb.enabledNodes
  · simpa [listed] using distinct
  · simpa [listed, List.nodup_append] using ⟨distinct, fun other member => by
      rintro rfl
      exact listed member⟩

@[simp]
theorem updateHealthStatus_lookup (status : HealthCheckStatus) (checkedAt : Instant)
    (now : SystemTime) :
    (lb.updateHealthStatus addr status checkedAt now).nodes.lookup other =
      if other = addr then
        (lb.nodes.lookup other).map (Node.healthChecked lb.circuitConfig status checkedAt now)
      else lb.nodes.lookup other :=
  AList.lookup_modify addr _ lb.nodes other

@[simp]
theorem checkCircuitTimeouts_lookup (now : String → SystemTime) :
    (lb.checkCircuitTimeouts now).1.nodes.lookup addr =
      (lb.nodes.lookup addr).map fun node => (node.timeoutChecked lb.circuitConfig (now addr)).1 :=
  AList.lookup_mapVal _ lb.nodes addr

@[simp]
theorem removeNode_lookup :
    (lb.removeNode addr).nodes.lookup other =
      if other = addr then none else lb.nodes.lookup other :=
  AList.lookup_erase_ite addr other lb.nodes

@[simp]
theorem mem_removeNode :
    other ∈ (lb.removeNode addr).enabledNodes ↔ other ∈ lb.enabledNodes ∧ other ≠ addr := by
  simp [removeNode]

end Updates

end LoadBalancer

inductive Operation where
  | nextNode (now : SystemTime)
  | disableNode (addr : String)
  | enableNode (addr : String)
  | autoDisableNode (addr : String)
  | autoEnableNode (addr : String)
  | updateHealthStatus (addr : String) (status : HealthCheckStatus) (checkedAt : Instant)
      (now : SystemTime)
  | checkCircuitTimeouts (now : String → SystemTime)
  | addNode (addr : String)
  | removeNode (addr : String)

inductive Reply where
  | selected (addr : Option String)
  | flag (value : Bool)
  | unit
  deriving DecidableEq, Repr

namespace LoadBalancer

def perform (lb : LoadBalancer) : Operation → LoadBalancer × Reply
  | .nextNode now => ((lb.nextNode now).1, .selected (lb.nextNode now).2)
  | .disableNode addr => ((lb.disableNode addr).1, .flag (lb.disableNode addr).2)
  | .enableNode addr => ((lb.enableNode addr).1, .flag (lb.enableNode addr).2)
  | .autoDisableNode addr => ((lb.autoDisableNode addr).1, .flag (lb.autoDisableNode addr).2)
  | .autoEnableNode addr => ((lb.autoEnableNode addr).1, .flag (lb.autoEnableNode addr).2)
  | .updateHealthStatus addr status checkedAt now =>
      (lb.updateHealthStatus addr status checkedAt now, .unit)
  | .checkCircuitTimeouts now =>
      ((lb.checkCircuitTimeouts now).1, .flag (lb.checkCircuitTimeouts now).2)
  | .addNode addr => (lb.addNode addr, .unit)
  | .removeNode addr => (lb.removeNode addr, .unit)

def machine : Machine LoadBalancer Operation Reply where
  step := perform

@[simp]
theorem machine_step (lb : LoadBalancer) (operation : Operation) :
    machine.step lb operation = lb.perform operation := rfl

def Reachable (nodeAddrs : List String) (lb : LoadBalancer) : Prop :=
  ∃ config operations, lb = machine.run (withConfig nodeAddrs config) operations

end LoadBalancer

end MadRpc
