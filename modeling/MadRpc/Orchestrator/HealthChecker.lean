import MadRpc.Common.Error
import MadRpc.Orchestrator.LoadBalancer

set_option autoImplicit false

namespace MadRpc

structure HealthCheckConfig where
  failureThreshold : UInt32
  deriving DecidableEq, Repr

def HealthCheckConfig.default : HealthCheckConfig where
  failureThreshold := 3

structure HealthCheckUpdate where
  nodeAddr : String
  status : HealthCheckStatus
  shouldEnable : Bool
  shouldDisable : Bool
  deriving DecidableEq, Repr

inductive HealthEvent where
  -- The lines `apply_health_update` logs.
  | reenabled (addr : String)
  | disabled (addr : String) (failures : UInt32) (error : String)
  deriving DecidableEq, Repr

def processHealthResult (config : HealthCheckConfig) (lb : LoadBalancer) (node : Node)
    (result : Except MadrpcError Unit) : HealthCheckUpdate :=
  match result with
  | .ok () =>
      { nodeAddr := node.addr
        status := .healthy
        shouldEnable := !node.enabled && decide (node.disableReason = some .healthCheck)
        shouldDisable := false }
  | .error error =>
      -- The count is the balancer's, the other fields are those of the snapshot.
      let failures := lb.consecutiveFailures node.addr + 1
      { nodeAddr := node.addr
        status := .unhealthy error.toString
        shouldEnable := false
        shouldDisable := decide (config.failureThreshold ≤ failures) && node.enabled &&
          decide (node.disableReason ≠ some .manual) }

def HealthCheckStatus.errorMsg : HealthCheckStatus → Option String
  | .healthy => none
  | .unhealthy message => some message

def applyHealthUpdate (lb : LoadBalancer) (update : HealthCheckUpdate) (checkedAt : Instant)
    (now : SystemTime) : LoadBalancer × List HealthEvent :=
  -- All of it happens under one write lock.
  let addr := update.nodeAddr
  let checked := lb.updateHealthStatus addr update.status checkedAt now
  let enabling := if update.shouldEnable then checked.autoEnableNode addr else (checked, false)
  let failures := enabling.1.consecutiveFailures addr
  let disabling :=
    if update.shouldDisable then enabling.1.autoDisableNode addr else (enabling.1, false)
  (disabling.1,
    (if enabling.2 then [.reenabled addr] else []) ++
      if disabling.2 then
        [.disabled addr failures (update.status.errorMsg.getD "unknown error")]
      else [])

/-- What one run of `check_all_nodes` finds outside the balancer: the iteration order of the
node map, the result of each check, and the clock readings. -/
structure HealthRound where
  timeoutsAt : String → SystemTime
  order : List String
  result : String → Except MadrpcError Unit
  checkedAt : String → Instant
  now : String → SystemTime

def processResults (config : HealthCheckConfig) (round : HealthRound) (lb : LoadBalancer)
    (nodes : List Node) : LoadBalancer :=
  nodes.foldl (fun lb node =>
    let update := processHealthResult config lb node (round.result node.addr)
    (applyHealthUpdate lb update (round.checkedAt node.addr) (round.now node.addr)).1) lb

def checkAllNodes (config : HealthCheckConfig) (lb : LoadBalancer) (round : HealthRound) :
    LoadBalancer :=
  let lb := (lb.checkCircuitTimeouts round.timeoutsAt).1
  processResults config round lb (lb.allNodes round.order)

def HealthCheckUpdate.operations (update : HealthCheckUpdate) (checkedAt : Instant)
    (now : SystemTime) : List Operation :=
  [.updateHealthStatus update.nodeAddr update.status checkedAt now] ++
    (if update.shouldEnable then [.autoEnableNode update.nodeAddr] else []) ++
    if update.shouldDisable then [.autoDisableNode update.nodeAddr] else []

theorem applyHealthUpdate_correct (lb : LoadBalancer) (update : HealthCheckUpdate)
    (checkedAt : Instant) (now : SystemTime) :
    (applyHealthUpdate lb update checkedAt now).1 =
      LoadBalancer.machine.run lb (update.operations checkedAt now) := by
  cases enable : update.shouldEnable <;> cases disable : update.shouldDisable <;>
    simp [applyHealthUpdate, HealthCheckUpdate.operations, enable, disable, LoadBalancer.perform]

def Node.autoEnabled (node : Node) : Node :=
  if node.disableReason = some .healthCheck then node.reenabled else node

def Node.autoDisabled (node : Node) : Node :=
  if node.disableReason ≠ some .manual then node.disabledFor .healthCheck else node

def Node.healthRecorded (config : CircuitBreakerConfig) (update : HealthCheckUpdate)
    (checkedAt : Instant) (now : SystemTime) (node : Node) : Node :=
  let checked := node.healthChecked config update.status checkedAt now
  if update.shouldEnable then checked.autoEnabled else checked

def Node.healthApplied (config : CircuitBreakerConfig) (update : HealthCheckUpdate)
    (checkedAt : Instant) (now : SystemTime) (node : Node) : Node :=
  let recorded := node.healthRecorded config update checkedAt now
  if update.shouldDisable then recorded.autoDisabled else recorded

theorem Node.healthChecked_healthy (config : CircuitBreakerConfig) (checkedAt : Instant)
    (now : SystemTime) (node : Node) :
    (node.healthChecked config .healthy checkedAt now).consecutiveFailures = 0 := by
  simp only [healthChecked]
  split <;> rfl

theorem Node.healthChecked_failures (config : CircuitBreakerConfig) (message : String)
    (checkedAt : Instant) (now : SystemTime) (node : Node) :
    (node.healthChecked config (.unhealthy message) checkedAt now).consecutiveFailures =
      node.consecutiveFailures + 1 := by
  simp only [healthChecked]
  split
  · split <;> rfl
  · rfl
  · rfl

theorem autoEnableNode_lookup (lb : LoadBalancer) (addr other : String) :
    (lb.autoEnableNode addr).1.nodes.lookup other =
      if other = addr then (lb.nodes.lookup other).map Node.autoEnabled
      else lb.nodes.lookup other := by
  unfold LoadBalancer.autoEnableNode
  by_cases same : other = addr
  · subst same
    cases found : lb.nodes.lookup other with
    | none => simpa using found
    | some node =>
        by_cases recovered : node.disableReason = some .healthCheck <;>
          simp [Node.autoEnabled, found, recovered]
  · cases lb.nodes.lookup addr with
    | none => simp [same]
    | some node =>
        by_cases recovered : node.disableReason = some .healthCheck <;>
          simp [recovered, same]

theorem autoDisableNode_lookup (lb : LoadBalancer) (addr other : String) :
    (lb.autoDisableNode addr).1.nodes.lookup other =
      if other = addr then (lb.nodes.lookup other).map Node.autoDisabled
      else lb.nodes.lookup other := by
  unfold LoadBalancer.autoDisableNode
  by_cases same : other = addr
  · subst same
    cases found : lb.nodes.lookup other with
    | none => simpa using found
    | some node =>
        by_cases manual : node.disableReason = some .manual <;>
          simp [Node.autoDisabled, found, manual]
  · cases lb.nodes.lookup addr with
    | none => simp [same]
    | some node =>
        by_cases manual : node.disableReason = some .manual <;>
          simp [manual, same]

theorem applyHealthUpdate_lookup (lb : LoadBalancer) (update : HealthCheckUpdate)
    (checkedAt : Instant) (now : SystemTime) (addr : String) :
    (applyHealthUpdate lb update checkedAt now).1.nodes.lookup addr =
      if addr = update.nodeAddr then
        (lb.nodes.lookup addr).map (Node.healthApplied lb.circuitConfig update checkedAt now)
      else lb.nodes.lookup addr := by
  by_cases same : addr = update.nodeAddr
  · subst same
    cases found : lb.nodes.lookup update.nodeAddr <;> cases enable : update.shouldEnable <;>
      cases disable : update.shouldDisable <;>
      simp [applyHealthUpdate, autoEnableNode_lookup, autoDisableNode_lookup, Node.healthApplied,
        Node.healthRecorded, found, enable, disable]
  · cases enable : update.shouldEnable <;> cases disable : update.shouldDisable <;>
      simp [applyHealthUpdate, autoEnableNode_lookup, autoDisableNode_lookup, same, enable,
        disable]

end MadRpc
