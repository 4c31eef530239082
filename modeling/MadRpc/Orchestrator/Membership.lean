import MadRpc.Orchestrator.Selection

set_option autoImplicit false

namespace MadRpc

def Node.SameMembership (before after : Node) : Prop :=
  after.addr = before.addr ∧ after.enabled = before.enabled ∧
    after.disableReason = before.disableReason

theorem Node.served_membership (now : SystemTime) (node : Node) :
    node.SameMembership (node.served now) := ⟨rfl, rfl, rfl⟩

theorem Node.transition_membership (node : Node) (state : CircuitBreakerState)
    (now : SystemTime) : node.SameMembership (node.transitionCircuitState state now) := by
  cases state <;> exact ⟨rfl, rfl, rfl⟩

theorem Node.healthChecked_membership (config : CircuitBreakerConfig)
    (status : HealthCheckStatus) (checkedAt : Instant) (now : SystemTime) (node : Node) :
    node.SameMembership (node.healthChecked config status checkedAt now) := by
  cases status with
  | healthy =>
      simp only [healthChecked]
      split
      · exact transition_membership _ _ _
      · exact ⟨rfl, rfl, rfl⟩
  | unhealthy message =>
      simp only [healthChecked]
      split
      · split
        · exact transition_membership _ _ _
        · exact ⟨rfl, rfl, rfl⟩
      · exact transition_membership _ _ _
      · exact ⟨rfl, rfl, rfl⟩

theorem Node.timeoutChecked_cases (config : CircuitBreakerConfig) (now : SystemTime)
    (node : Node) :
    (node.timeoutChecked config now).1 = node ∨ (node.timeoutChecked config now).1 =
      { node with
        circuitState := .halfOpen
        circuitOpenedAt := none
        halfOpenAttempted := true } := by
  unfold timeoutChecked tryTransitionToHalfOpen
  split_ifs <;> simp

theorem Node.timeoutChecked_membership (config : CircuitBreakerConfig) (now : SystemTime)
    (node : Node) : node.SameMembership (node.timeoutChecked config now).1 := by
  rcases node.timeoutChecked_cases config now with same | moved
  · rw [same]
    exact ⟨rfl, rfl, rfl⟩
  · rw [moved]
    exact ⟨rfl, rfl, rfl⟩

namespace LoadBalancer

def Refused (lb : LoadBalancer) : Operation → Prop
  | .disableNode addr | .enableNode addr => lb.nodes.lookup addr = none
  | .autoDisableNode addr =>
      ∀ node, lb.nodes.lookup addr = some node → node.disableReason = some .manual
  | .autoEnableNode addr =>
      ∀ node, lb.nodes.lookup addr = some node → node.disableReason ≠ some .healthCheck
  | _ => False

/-- Everything one operation can do, with the guards that let it. -/
inductive Change (lb : LoadBalancer) : Operation → LoadBalancer → Reply → Prop where
  | select (now : SystemTime) :
      Change lb (.nextNode now) (lb.afterSelection now) (.selected lb.chosen)
  | check (addr : String) (status : HealthCheckStatus) (checkedAt : Instant) (now : SystemTime) :
      Change lb (.updateHealthStatus addr status checkedAt now)
        (lb.updateHealthStatus addr status checkedAt now) .unit
  | timeouts (now : String → SystemTime) :
      Change lb (.checkCircuitTimeouts now) (lb.checkCircuitTimeouts now).1
        (.flag (lb.checkCircuitTimeouts now).2)
  | refused (operation : Operation) (why : lb.Refused operation) :
      Change lb operation lb (.flag false)
  | disabled (addr : String) (node : Node) (found : lb.nodes.lookup addr = some node) :
      Change lb (.disableNode addr) (lb.leaveRotation addr .manual) (.flag true)
  | autoDisabled (addr : String) (node : Node) (found : lb.nodes.lookup addr = some node)
      (free : node.disableReason ≠ some .manual) :
      Change lb (.autoDisableNode addr) (lb.leaveRotation addr .healthCheck) (.flag true)
  | enabled (addr : String) (node : Node) (found : lb.nodes.lookup addr = some node) :
      Change lb (.enableNode addr) (lb.joinRotation addr) (.flag true)
  | autoEnabled (addr : String) (node : Node) (found : lb.nodes.lookup addr = some node)
      (recovered : node.disableReason = some .healthCheck) :
      Change lb (.autoEnableNode addr) (lb.joinRotation addr) (.flag true)
  | known (addr : String) (present : addr ∈ lb.nodes) : Change lb (.addNode addr) lb .unit
  | added (addr : String) (absent : addr ∉ lb.nodes) :
      Change lb (.addNode addr)
        { lb with
          nodes := lb.nodes.insert addr (Node.new addr)
          enabledNodes := lb.enabledNodes ++ [addr] } .unit
  | removed (addr : String) : Change lb (.removeNode addr) (lb.removeNode addr) .unit

theorem perform_change (lb : LoadBalancer) (operation : Operation) :
    Change lb operation (lb.perform operation).1 (lb.perform operation).2 := by
  cases operation with
  | nextNode now =>
      simp only [perform, nextNode_correct]
      exact .select now
  | disableNode addr =>
      simp only [perform, disableNode]
      cases found : lb.nodes.lookup addr with
      | none => exact .refused _ found
      | some node => exact .disabled addr node found
  | enableNode addr =>
      simp only [perform, enableNode]
      cases found : lb.nodes.lookup addr with
      | none => exact .refused _ found
      | some node => exact .enabled addr node found
  | autoDisableNode addr =>
      simp only [perform, autoDisableNode]
      cases found : lb.nodes.lookup addr with
      | none => exact .refused _ (by simp [Refused, found])
      | some node =>
          by_cases manual : node.disableReason = some .manual
          · have why : lb.Refused (.autoDisableNode addr) := by simp [Refused, found, manual]
            simpa [manual] using Change.refused _ why
          · simpa [manual] using Change.autoDisabled addr node found manual
  | autoEnableNode addr =>
      simp only [perform, autoEnableNode]
      cases found : lb.nodes.lookup addr with
      | none => exact .refused _ (by simp [Refused, found])
      | some node =>
          by_cases recovered : node.disableReason = some .healthCheck
          · simpa [recovered] using Change.autoEnabled addr node found recovered
          · have why : lb.Refused (.autoEnableNode addr) := by simp [Refused, found, recovered]
            simpa [recovered] using Change.refused _ why
  | updateHealthStatus addr status checkedAt now => exact .check addr status checkedAt now
  | checkCircuitTimeouts now => exact .timeouts now
  | addNode addr =>
      simp only [perform, addNode]
      split
      next present => exact .known addr present
      next absent => exact .added addr absent
  | removeNode addr => exact .removed addr

structure Consistent (lb : LoadBalancer) : Prop where
  keyed : ∀ addr node, lb.nodes.lookup addr = some node → node.addr = addr
  rotation : ∀ addr, addr ∈ lb.enabledNodes ↔
    ∃ node, lb.nodes.lookup addr = some node ∧ node.enabled = true
  reasons : ∀ addr node, lb.nodes.lookup addr = some node →
    (node.enabled = true ↔ node.disableReason = none)

theorem withConfig_consistent (nodeAddrs : List String) (config : CircuitBreakerConfig) :
    Consistent (withConfig nodeAddrs config) := by
  -- A repeated address is one node of the map, so the list may repeat addresses.
  constructor <;> intro addr <;> by_cases listed : addr ∈ nodeAddrs <;>
    simp [withConfig, listed, Node.new]

structure Refreshed (lb after : LoadBalancer) : Prop where
  rotation : after.enabledNodes = lb.enabledNodes
  nodes : ∀ addr, ∃ update : Node → Node, (∀ node : Node, node.SameMembership (update node)) ∧
    after.nodes.lookup addr = (lb.nodes.lookup addr).map update

theorem afterSelection_refreshed (lb : LoadBalancer) (now : SystemTime) :
    Refreshed lb (lb.afterSelection now) := by
  refine ⟨rfl, fun addr => ?_⟩
  obtain ⟨update, which, found⟩ := afterSelection_lookup lb now addr
  refine ⟨update, fun node => ?_, found⟩
  rcases which with rfl | rfl
  · exact ⟨rfl, rfl, rfl⟩
  · exact node.served_membership now

theorem updateHealthStatus_refreshed (lb : LoadBalancer) (addr : String)
    (status : HealthCheckStatus) (checkedAt : Instant) (now : SystemTime) :
    Refreshed lb (lb.updateHealthStatus addr status checkedAt now) := by
  refine ⟨rfl, fun other => ?_⟩
  by_cases same : other = addr
  · exact ⟨Node.healthChecked lb.circuitConfig status checkedAt now,
      fun node => node.healthChecked_membership _ _ _ _, by simp [same]⟩
  · exact ⟨id, fun _ => ⟨rfl, rfl, rfl⟩, by simp [same]⟩

theorem checkCircuitTimeouts_refreshed (lb : LoadBalancer) (now : String → SystemTime) :
    Refreshed lb (lb.checkCircuitTimeouts now).1 :=
  ⟨rfl, fun addr => ⟨fun node => (node.timeoutChecked lb.circuitConfig (now addr)).1,
    fun node => node.timeoutChecked_membership _ _, by simp⟩⟩

theorem Consistent.refresh {lb after : LoadBalancer} (consistent : Consistent lb)
    (refreshed : Refreshed lb after) : Consistent after := by
  constructor
  · intro addr node found
    obtain ⟨update, same, updated⟩ := refreshed.nodes addr
    obtain ⟨before, present, rfl⟩ := Option.map_eq_some_iff.mp (updated ▸ found)
    rw [(same before).1]
    exact consistent.keyed addr before present
  · intro addr
    obtain ⟨update, same, updated⟩ := refreshed.nodes addr
    rw [refreshed.rotation, consistent.rotation addr, updated]
    simp [Option.map_eq_some_iff, (same _).2.1]
  · intro addr node found
    obtain ⟨update, same, updated⟩ := refreshed.nodes addr
    obtain ⟨before, present, rfl⟩ := Option.map_eq_some_iff.mp (updated ▸ found)
    rw [(same before).2.1, (same before).2.2]
    exact consistent.reasons addr before present

theorem Consistent.leaveRotation {lb : LoadBalancer} (consistent : Consistent lb)
    (addr : String) (reason : DisableReason) : Consistent (lb.leaveRotation addr reason) := by
  constructor
  · intro other node found
    by_cases same : other = addr
    · subst same
      obtain ⟨before, present, rfl⟩ :=
        Option.map_eq_some_iff.mp (by simpa using found)
      exact consistent.keyed other before present
    · exact consistent.keyed other node (by simpa [same] using found)
  · intro other
    by_cases same : other = addr
    · simp [same, Option.map_eq_some_iff, Node.disabledFor]
    · simp [same, consistent.rotation other]
  · intro other node found
    by_cases same : other = addr
    · subst same
      obtain ⟨before, present, rfl⟩ :=
        Option.map_eq_some_iff.mp (by simpa using found)
      simp [Node.disabledFor]
    · exact consistent.reasons other node (by simpa [same] using found)

theorem Consistent.joinRotation {lb : LoadBalancer} (consistent : Consistent lb)
    (addr : String) (node : Node) (present : lb.nodes.lookup addr = some node) :
    Consistent (lb.joinRotation addr) := by
  constructor
  · intro other after found
    by_cases same : other = addr
    · subst same
      obtain ⟨before, present, rfl⟩ :=
        Option.map_eq_some_iff.mp (by simpa using found)
      exact consistent.keyed other before present
    · exact consistent.keyed other after (by simpa [same] using found)
  · intro other
    by_cases same : other = addr
    · subst same
      simp [present, Node.reenabled]
    · simp [same, consistent.rotation other]
  · intro other after found
    by_cases same : other = addr
    · subst same
      obtain ⟨before, present, rfl⟩ :=
        Option.map_eq_some_iff.mp (by simpa using found)
      simp [Node.reenabled]
    · exact consistent.reasons other after (by simpa [same] using found)

theorem Consistent.added {lb : LoadBalancer} (consistent : Consistent lb) (addr : String) :
    Consistent
      { lb with
        nodes := lb.nodes.insert addr (Node.new addr)
        enabledNodes := lb.enabledNodes ++ [addr] } := by
  constructor <;> intro other <;> by_cases same : other = addr
  · simp [same, Node.new]
  · simpa [same] using consistent.keyed other
  · simp [same, Node.new]
  · simpa [same] using consistent.rotation other
  · simp [same, Node.new]
  · simpa [same] using consistent.reasons other

theorem Consistent.removeNode {lb : LoadBalancer} (consistent : Consistent lb) (addr : String) :
    Consistent (lb.removeNode addr) := by
  -- `retain` drops every copy of the address, as the map drops its node.
  constructor <;> intro other <;> by_cases same : other = addr
  · simp [same]
  · simpa [same] using consistent.keyed other
  · simp [same]
  · simpa [same] using consistent.rotation other
  · simp [same]
  · simpa [same] using consistent.reasons other

theorem perform_consistent (lb : LoadBalancer) (operation : Operation)
    (consistent : Consistent lb) : Consistent (lb.perform operation).1 := by
  have change := perform_change lb operation
  generalize (lb.perform operation).1 = after, (lb.perform operation).2 = reply at change
  cases change with
  | select now => exact consistent.refresh (afterSelection_refreshed lb now)
  | check addr status checkedAt now =>
      exact consistent.refresh (updateHealthStatus_refreshed lb addr status checkedAt now)
  | timeouts now => exact consistent.refresh (checkCircuitTimeouts_refreshed lb now)
  | refused => exact consistent
  | disabled addr => exact consistent.leaveRotation addr .manual
  | autoDisabled addr => exact consistent.leaveRotation addr .healthCheck
  | enabled addr node found => exact consistent.joinRotation addr node found
  | autoEnabled addr node found => exact consistent.joinRotation addr node found
  | known => exact consistent
  | added addr => exact consistent.added addr
  | removed addr => exact consistent.removeNode addr

theorem Reachable.consistent {nodeAddrs : List String} {lb : LoadBalancer}
    (reachable : Reachable nodeAddrs lb) : Consistent lb := by
  obtain ⟨config, operations, rfl⟩ := reachable
  exact machine.run_invariant Consistent perform_consistent _ operations
    (withConfig_consistent nodeAddrs config)

theorem run_consistent (nodeAddrs : List String) (config : CircuitBreakerConfig)
    (operations : List Operation) :
    Consistent (machine.run (new nodeAddrs) operations) ∧
      Consistent (machine.run (withConfig nodeAddrs config) operations) :=
  ⟨Reachable.consistent ⟨.default, operations, rfl⟩, Reachable.consistent ⟨config, operations, rfl⟩⟩

end LoadBalancer

end MadRpc
