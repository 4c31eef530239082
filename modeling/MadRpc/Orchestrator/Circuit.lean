import MadRpc.Orchestrator.Membership

set_option autoImplicit false

namespace MadRpc

namespace Node

structure CircuitCoherent (node : Node) : Prop where
  openedAt : node.circuitOpenedAt.isSome = true ↔ node.circuitState = .opened
  attempted : node.halfOpenAttempted = true ↔ node.circuitState = .halfOpen

def SameCircuit (before after : Node) : Prop :=
  after.circuitState = before.circuitState ∧ after.circuitOpenedAt = before.circuitOpenedAt ∧
    after.halfOpenAttempted = before.halfOpenAttempted

def Due (config : CircuitBreakerConfig) (now : SystemTime) (node : Node) : Prop :=
  node.circuitState = .opened ∧ ∃ openedAt, node.circuitOpenedAt = some openedAt ∧
    config.calculateTimeout node.consecutiveFailures ≤ openedAt.elapsed now

theorem shouldAttemptHalfOpen_iff (config : CircuitBreakerConfig) (now : SystemTime)
    (node : Node) : node.shouldAttemptHalfOpen config now = true ↔ node.Due config now := by
  unfold shouldAttemptHalfOpen Due
  by_cases opened : node.circuitState = .opened <;>
    cases since : node.circuitOpenedAt <;> simp [opened]

theorem CircuitCoherent.of_same {before after : Node} (coherent : before.CircuitCoherent)
    (same : before.SameCircuit after) : after.CircuitCoherent := by
  obtain ⟨state, openedAt, attempted⟩ := same
  exact ⟨by rw [state, openedAt]; exact coherent.openedAt,
    by rw [state, attempted]; exact coherent.attempted⟩

theorem new_coherent (addr : String) : (Node.new addr).CircuitCoherent := by
  constructor <;> simp [Node.new]

theorem healthChecked_coherent (config : CircuitBreakerConfig) (status : HealthCheckStatus)
    (checkedAt : Instant) (now : SystemTime) (node : Node) (coherent : node.CircuitCoherent) :
    (node.healthChecked config status checkedAt now).CircuitCoherent := by
  obtain ⟨openedAt, attempted⟩ := coherent
  -- Every transition of a check is to `opened` or `closed`, and both clear the flag.
  cases status <;> cases state : node.circuitState <;> constructor <;>
    simp only [healthChecked, state] <;> (try split) <;>
    simp_all [transitionCircuitState]

theorem Due.claims {config : CircuitBreakerConfig} {now : SystemTime} {node : Node}
    (due : node.Due config now) (coherent : node.CircuitCoherent) :
    node.tryTransitionToHalfOpen =
      ({ node with circuitState := .halfOpen, circuitOpenedAt := none, halfOpenAttempted := true },
        true) := by
  -- The flag of an open circuit is clear, so the compare-and-swap succeeds.
  have unclaimed : node.halfOpenAttempted = false := by
    rw [← Bool.not_eq_true, coherent.attempted, due.1]
    decide
  simp [tryTransitionToHalfOpen, due.1, unclaimed]

theorem timeoutChecked_due {config : CircuitBreakerConfig} {now : SystemTime} {node : Node}
    (due : node.Due config now) (coherent : node.CircuitCoherent) :
    node.timeoutChecked config now =
      ({ node with circuitState := .halfOpen, circuitOpenedAt := none, halfOpenAttempted := true },
        true) := by
  rw [timeoutChecked, if_pos ((shouldAttemptHalfOpen_iff config now node).mpr due),
    due.claims coherent]

theorem timeoutChecked_not_due {config : CircuitBreakerConfig} {now : SystemTime} {node : Node}
    (early : ¬ node.Due config now) : node.timeoutChecked config now = (node, false) := by
  rw [timeoutChecked, if_neg fun should => early ((shouldAttemptHalfOpen_iff _ _ _).mp should)]

theorem timeoutChecked_coherent (config : CircuitBreakerConfig) (now : SystemTime) (node : Node)
    (coherent : node.CircuitCoherent) : (node.timeoutChecked config now).1.CircuitCoherent := by
  by_cases due : node.Due config now
  · rw [timeoutChecked_due due coherent]
    constructor <;> simp
  · rw [timeoutChecked_not_due due]
    exact coherent

end Node

inductive NodeStep (config : CircuitBreakerConfig) (addr : String) (before : Node) :
    Node → Operation → Prop where
  | quiet (after : Node) (operation : Operation) (same : before.SameCircuit after)
      (counted : after.consecutiveFailures = before.consecutiveFailures) :
      NodeStep config addr before after operation
  | reenabled (operation : Operation)
      (joins : operation = .enableNode addr ∨ operation = .autoEnableNode addr) :
      NodeStep config addr before before.reenabled operation
  | checked (status : HealthCheckStatus) (checkedAt : Instant) (now : SystemTime) :
      NodeStep config addr before (before.healthChecked config status checkedAt now)
        (.updateHealthStatus addr status checkedAt now)
  | timed (now : String → SystemTime) :
      NodeStep config addr before (before.timeoutChecked config (now addr)).1
        (.checkCircuitTimeouts now)

inductive CircuitStep (config : CircuitBreakerConfig) (addr : String) (before after : Node) :
    Operation → Prop where
  | trip (message : String) (checkedAt : Instant) (now : SystemTime)
      (closed : before.circuitState = .closed) (opened : after.circuitState = .opened)
      (counted : after.consecutiveFailures = before.consecutiveFailures + 1)
      (reached : config.failureThreshold ≤ after.consecutiveFailures) :
      CircuitStep config addr before after
        (.updateHealthStatus addr (.unhealthy message) checkedAt now)
  | probe (now : String → SystemTime) (due : before.Due config (now addr))
      (halfOpen : after.circuitState = .halfOpen) :
      CircuitStep config addr before after (.checkCircuitTimeouts now)
  | recover (checkedAt : Instant) (now : SystemTime)
      (halfOpen : before.circuitState = .halfOpen) (closed : after.circuitState = .closed) :
      CircuitStep config addr before after (.updateHealthStatus addr .healthy checkedAt now)
  | relapse (message : String) (checkedAt : Instant) (now : SystemTime)
      (halfOpen : before.circuitState = .halfOpen) (opened : after.circuitState = .opened) :
      CircuitStep config addr before after
        (.updateHealthStatus addr (.unhealthy message) checkedAt now)

theorem NodeStep.circuitStep {config : CircuitBreakerConfig} {addr : String}
    {before after : Node} {operation : Operation}
    (step : NodeStep config addr before after operation) (coherent : before.CircuitCoherent)
    (moved : before.circuitState ≠ after.circuitState) :
    CircuitStep config addr before after operation := by
  cases step with
  | quiet _ _ same => exact absurd same.1.symm moved
  | reenabled => exact absurd rfl moved
  | checked status checkedAt now =>
      cases status with
      | healthy =>
          cases state : before.circuitState with
          | halfOpen =>
              refine .recover checkedAt now state ?_
              simp [Node.healthChecked, state, Node.transitionCircuitState]
          | closed => exact absurd (by simp [Node.healthChecked, state]) moved
          | opened => exact absurd (by simp [Node.healthChecked, state]) moved
      | unhealthy message =>
          cases state : before.circuitState with
          | closed =>
              by_cases reached : config.failureThreshold ≤ before.consecutiveFailures + 1
              · refine .trip message checkedAt now state ?_ ?_ ?_ <;>
                  simp [Node.healthChecked, state, reached, Node.transitionCircuitState]
              · exact absurd (by simp [Node.healthChecked, state, reached]) moved
          | halfOpen =>
              refine .relapse message checkedAt now state ?_
              simp [Node.healthChecked, state, Node.transitionCircuitState]
          | opened => exact absurd (by simp [Node.healthChecked, state]) moved
  | timed now =>
      by_cases due : before.Due config (now addr)
      · exact .probe now due (by rw [Node.timeoutChecked_due due coherent])
      · exact absurd (by rw [Node.timeoutChecked_not_due due]) moved

theorem NodeStep.coherent {config : CircuitBreakerConfig} {addr : String}
    {before after : Node} {operation : Operation}
    (step : NodeStep config addr before after operation) (coherent : before.CircuitCoherent) :
    after.CircuitCoherent := by
  cases step with
  | quiet _ _ same => exact coherent.of_same same
  | reenabled => exact coherent.of_same ⟨rfl, rfl, rfl⟩
  | checked status checkedAt now => exact Node.healthChecked_coherent _ _ _ _ _ coherent
  | timed now => exact Node.timeoutChecked_coherent _ _ _ coherent

namespace LoadBalancer

theorem perform_circuitConfig (lb : LoadBalancer) (operation : Operation) :
    (lb.perform operation).1.circuitConfig = lb.circuitConfig := by
  have change := perform_change lb operation
  generalize (lb.perform operation).1 = after, (lb.perform operation).2 = reply at change
  cases change <;> rfl

theorem perform_nodeStep (lb : LoadBalancer) (operation : Operation) (addr : String)
    (after : Node) (found : (lb.perform operation).1.nodes.lookup addr = some after) :
    (operation = .addNode addr ∧ lb.nodes.lookup addr = none ∧ after = Node.new addr) ∨
      ∃ before, lb.nodes.lookup addr = some before ∧
        NodeStep lb.circuitConfig addr before after operation := by
  have change := perform_change lb operation
  generalize (lb.perform operation).1 = next, (lb.perform operation).2 = reply at change found
  -- The node is not the one the operation is about.
  have unchanged (found : lb.nodes.lookup addr = some after) :
      ∃ before, lb.nodes.lookup addr = some before ∧
        NodeStep lb.circuitConfig addr before after operation :=
    ⟨after, found, .quiet _ _ ⟨rfl, rfl, rfl⟩ rfl⟩
  cases change with
  | select now =>
      obtain ⟨update, which, updated⟩ := afterSelection_lookup lb now addr
      obtain ⟨before, present, rfl⟩ := Option.map_eq_some_iff.mp (updated ▸ found)
      rcases which with rfl | rfl <;>
        exact .inr ⟨before, present, .quiet _ _ ⟨rfl, rfl, rfl⟩ rfl⟩
  | check target status checkedAt now =>
      by_cases same : addr = target
      · subst same
        obtain ⟨before, present, rfl⟩ :=
          Option.map_eq_some_iff.mp (by simpa using found)
        exact .inr ⟨before, present, .checked status checkedAt now⟩
      · exact .inr (unchanged (by simpa [same] using found))
  | timeouts now =>
      obtain ⟨before, present, rfl⟩ :=
        Option.map_eq_some_iff.mp (by simpa using found)
      exact .inr ⟨before, present, .timed now⟩
  | refused => exact .inr (unchanged found)
  | disabled target | autoDisabled target =>
      by_cases same : addr = target
      · subst same
        obtain ⟨before, present, rfl⟩ :=
          Option.map_eq_some_iff.mp (by simpa using found)
        exact .inr ⟨before, present, .quiet _ _ ⟨rfl, rfl, rfl⟩ rfl⟩
      · exact .inr (unchanged (by simpa [same] using found))
  | enabled target | autoEnabled target =>
      by_cases same : addr = target
      · subst same
        obtain ⟨before, present, rfl⟩ :=
          Option.map_eq_some_iff.mp (by simpa using found)
        exact .inr ⟨before, present, .reenabled _ (by simp)⟩
      · exact .inr (unchanged (by simpa [same] using found))
  | known => exact .inr (unchanged found)
  | added target absent =>
      by_cases same : addr = target
      · subst same
        exact .inl ⟨rfl, AList.lookup_eq_none.mpr absent, by simpa using found.symm⟩
      · exact .inr (unchanged (by simpa [same] using found))
  | removed target =>
      by_cases same : addr = target
      · simp [same] at found
      · exact .inr (unchanged (by simpa [same] using found))

def CircuitsCoherent (lb : LoadBalancer) : Prop :=
  ∀ addr node, lb.nodes.lookup addr = some node → node.CircuitCoherent

theorem perform_circuitsCoherent (lb : LoadBalancer) (operation : Operation)
    (coherent : lb.CircuitsCoherent) : (lb.perform operation).1.CircuitsCoherent := by
  intro addr after found
  rcases perform_nodeStep lb operation addr after found with ⟨_, _, rfl⟩ | ⟨before, present, step⟩
  · exact Node.new_coherent addr
  · exact step.coherent (coherent addr before present)

theorem run_circuitsCoherent (nodeAddrs : List String) (config : CircuitBreakerConfig)
    (operations : List Operation) :
    (machine.run (withConfig nodeAddrs config) operations).CircuitsCoherent := by
  apply machine.run_invariant CircuitsCoherent perform_circuitsCoherent
  intro addr node found
  obtain ⟨_, rfl⟩ : addr ∈ nodeAddrs ∧ Node.new addr = node := by
    simpa [withConfig] using found
  exact Node.new_coherent addr

theorem run_circuitConfig (lb : LoadBalancer) (operations : List Operation) :
    (machine.run lb operations).circuitConfig = lb.circuitConfig :=
  machine.run_invariant (fun state => state.circuitConfig = lb.circuitConfig)
    (fun state operation same => (perform_circuitConfig state operation).trans same)
    lb operations rfl

theorem checkCircuitTimeouts_correct (lb : LoadBalancer) (now : String → SystemTime)
    (coherent : lb.CircuitsCoherent) :
    (∀ addr node, lb.nodes.lookup addr = some node →
      (node.Due lb.circuitConfig (now addr) → node.tryTransitionToHalfOpen.2 = true ∧
        ∃ moved, (lb.checkCircuitTimeouts now).1.nodes.lookup addr = some moved ∧
          moved.circuitState = .halfOpen) ∧
      (¬ node.Due lb.circuitConfig (now addr) →
        (lb.checkCircuitTimeouts now).1.nodes.lookup addr = some node)) ∧
    ((lb.checkCircuitTimeouts now).2 = true ↔
      ∃ addr node, lb.nodes.lookup addr = some node ∧ node.Due lb.circuitConfig (now addr)) := by
  constructor
  · intro addr node found
    constructor
    · intro due
      have claimed := Node.timeoutChecked_due due (coherent addr node found)
      refine ⟨by rw [due.claims (coherent addr node found)],
        (node.timeoutChecked lb.circuitConfig (now addr)).1, ?_, by rw [claimed]⟩
      simp [found]
    · intro early
      simp [found, Node.timeoutChecked_not_due early]
  · have reported (addr : String) (node : Node) (found : lb.nodes.lookup addr = some node) :
        (node.timeoutChecked lb.circuitConfig (now addr)).2 = true ↔
          node.Due lb.circuitConfig (now addr) := by
      by_cases due : node.Due lb.circuitConfig (now addr)
      · simp [Node.timeoutChecked_due due (coherent addr node found), due]
      · simp [Node.timeoutChecked_not_due due, due]
    simp only [checkCircuitTimeouts, List.any_eq_true, Sigma.exists]
    constructor
    · rintro ⟨addr, node, member, moved⟩
      have found : lb.nodes.lookup addr = some node := AList.mem_lookup_iff.mpr member
      exact ⟨addr, node, found, (reported addr node found).mp moved⟩
    · rintro ⟨addr, node, found, due⟩
      exact ⟨addr, node, AList.mem_lookup_iff.mp found, (reported addr node found).mpr due⟩

theorem circuit_automaton (nodeAddrs : List String) (config : CircuitBreakerConfig)
    (operations : List Operation) :
    let lb := machine.run (withConfig nodeAddrs config) operations
    (∀ addr node, lb.nodes.lookup addr = some node → node.CircuitCoherent) ∧
    (∀ operation addr before after, lb.nodes.lookup addr = some before →
      (lb.perform operation).1.nodes.lookup addr = some after →
      before.circuitState ≠ after.circuitState →
      CircuitStep config addr before after operation) ∧
    ∀ now,
      (∀ addr node, lb.nodes.lookup addr = some node →
        (node.Due config (now addr) → node.tryTransitionToHalfOpen.2 = true ∧
          ∃ moved, (lb.checkCircuitTimeouts now).1.nodes.lookup addr = some moved ∧
            moved.circuitState = .halfOpen) ∧
        (¬ node.Due config (now addr) →
          (lb.checkCircuitTimeouts now).1.nodes.lookup addr = some node)) ∧
      ((lb.checkCircuitTimeouts now).2 = true ↔
        ∃ addr node, lb.nodes.lookup addr = some node ∧ node.Due config (now addr)) := by
  intro lb
  have coherent : lb.CircuitsCoherent := run_circuitsCoherent nodeAddrs config operations
  have sameConfig : lb.circuitConfig = config := run_circuitConfig _ operations
  refine ⟨coherent, ?_, ?_⟩
  · intro operation addr before after present found moved
    rcases perform_nodeStep lb operation addr after found with ⟨_, absent, _⟩ | ⟨node, here, step⟩
    · simp [present] at absent
    · obtain rfl : before = node := by simpa [present] using here
      exact sameConfig ▸ step.circuitStep (coherent addr before present) moved
  · intro now
    have passed := checkCircuitTimeouts_correct lb now coherent
    rw [sameConfig] at passed
    exact passed

end LoadBalancer

end MadRpc
