import MadRpc.Orchestrator.Circuit
import MadRpc.Orchestrator.HealthChecker
import MadRpc.Orchestrator.Timeout

set_option autoImplicit false

namespace MadRpc

namespace Node

def Counted (node : Node) : Prop :=
  node.circuitState = .opened → 1 ≤ node.consecutiveFailures.toNat

/-- The report leaves the failure count of an open circuit, and of one it opens, above zero. -/
def CountKept (status : HealthCheckStatus) (node : Node) : Prop :=
  match status with
  | .healthy => node.circuitState ≠ .opened
  -- Where the count wraps, only a circuit that stays closed is not open afterwards.
  | .unhealthy _ => node.consecutiveFailures + 1 = 0 → node.circuitState = .closed

theorem counted_of_same {before after : Node} (counted : before.Counted)
    (same : before.SameCircuit after)
    (failures : after.consecutiveFailures = before.consecutiveFailures) : after.Counted := by
  intro opened
  rw [failures]
  exact counted (same.1 ▸ opened)

theorem reenabled_counted_iff (node : Node) :
    node.reenabled.Counted ↔ node.circuitState ≠ .opened := by
  simp [Counted, reenabled]

theorem one_le_toNat_iff (failures : UInt32) : 1 ≤ failures.toNat ↔ failures ≠ 0 := by
  rw [Nat.one_le_iff_ne_zero, Ne, Ne, ← UInt32.toNat_inj]
  rfl

theorem healthChecked_counted_iff (config : CircuitBreakerConfig)
    (threshold : 1 ≤ config.failureThreshold) (status : HealthCheckStatus) (checkedAt : Instant)
    (now : SystemTime) (node : Node) :
    (node.healthChecked config status checkedAt now).Counted ↔ node.CountKept status := by
  cases status with
  | healthy =>
      cases state : node.circuitState <;>
        simp [Counted, CountKept, healthChecked, state, transitionCircuitState]
  | unhealthy message =>
      cases state : node.circuitState with
      | closed =>
          by_cases reached : config.failureThreshold ≤ node.consecutiveFailures + 1
          · -- A count that reaches the threshold is not zero.
            have counted : 1 ≤ (node.consecutiveFailures + 1).toNat :=
              UInt32.le_iff_toNat_le.mp (UInt32.le_trans threshold reached)
            simpa [Counted, CountKept, healthChecked, state, reached, transitionCircuitState]
              using counted
          · simp [Counted, CountKept, healthChecked, state, reached]
      | opened | halfOpen =>
          simp only [Counted, CountKept, healthChecked, state, transitionCircuitState,
            one_le_toNat_iff]
          simp

theorem timeoutChecked_counted (config : CircuitBreakerConfig) (now : SystemTime) (node : Node)
    (counted : node.Counted) : (node.timeoutChecked config now).1.Counted := by
  rcases node.timeoutChecked_cases config now with same | moved
  · rwa [same]
  · rw [moved]
    simp [Counted]

end Node

namespace LoadBalancer

def OpenedCounted (lb : LoadBalancer) : Prop :=
  ∀ addr node, lb.nodes.lookup addr = some node → node.Counted

def CountKept (lb : LoadBalancer) : Operation → Prop
  | .enableNode addr =>
      ∀ node, lb.nodes.lookup addr = some node → node.circuitState ≠ .opened
  | .autoEnableNode addr =>
      ∀ node, lb.nodes.lookup addr = some node → node.disableReason = some .healthCheck →
        node.circuitState ≠ .opened
  | .updateHealthStatus addr status _ _ =>
      ∀ node, lb.nodes.lookup addr = some node → node.CountKept status
  | _ => True

/-- A timeout check finds no open circuit whose count is negative as an exponent. -/
def CountRepresentable (lb : LoadBalancer) : Operation → Prop
  | .checkCircuitTimeouts _ =>
      ∀ addr node, lb.nodes.lookup addr = some node → node.circuitState = .opened →
        node.consecutiveFailures.toNat ≤ 2 ^ 31 ∨ lb.circuitConfig.backoffMultiplier = 1 ∨
          lb.circuitConfig.baseTimeoutSecs = 0
  | _ => True

instance (lb : LoadBalancer) : DecidablePred lb.CountKept
  | .enableNode addr =>
      inferInstanceAs (Decidable (∀ node ∈ lb.nodes.lookup addr, node.circuitState ≠ .opened))
  | .autoEnableNode addr =>
      inferInstanceAs (Decidable (∀ node ∈ lb.nodes.lookup addr,
        node.disableReason = some .healthCheck → node.circuitState ≠ .opened))
  | .updateHealthStatus addr .healthy _ _ =>
      inferInstanceAs (Decidable (∀ node ∈ lb.nodes.lookup addr, node.circuitState ≠ .opened))
  | .updateHealthStatus addr (.unhealthy _) _ _ =>
      inferInstanceAs (Decidable (∀ node ∈ lb.nodes.lookup addr,
        node.consecutiveFailures + 1 = 0 → node.circuitState = .closed))
  | .nextNode _ | .disableNode _ | .autoDisableNode _ | .checkCircuitTimeouts _ | .addNode _
  | .removeNode _ => inferInstanceAs (Decidable True)

instance (lb : LoadBalancer) : DecidablePred lb.CountRepresentable
  | .checkCircuitTimeouts _ =>
      decidable_of_iff (∀ entry ∈ lb.nodes.entries, entry.2.circuitState = .opened →
          entry.2.consecutiveFailures.toNat ≤ 2 ^ 31 ∨ lb.circuitConfig.backoffMultiplier = 1 ∨
            lb.circuitConfig.baseTimeoutSecs = 0)
        ⟨fun each addr node found => each ⟨addr, node⟩ (AList.mem_lookup_iff.mp found),
          fun each entry member => each entry.1 entry.2 (AList.mem_lookup_iff.mpr member)⟩
  | .nextNode _ | .enableNode _ | .autoEnableNode _ | .updateHealthStatus _ _ _ _
  | .disableNode _ | .autoDisableNode _ | .addNode _ | .removeNode _ =>
      inferInstanceAs (Decidable True)

def BacksOff (lb : LoadBalancer) (operation : Operation) : Prop :=
  ∀ addr before after, lb.nodes.lookup addr = some before →
    (lb.perform operation).1.nodes.lookup addr = some after →
    before.circuitState = .opened → after.circuitState = .halfOpen →
    ∃ openedAt now, before.circuitOpenedAt = some openedAt ∧
      operation = .checkCircuitTimeouts now ∧
      Duration.fromSecs lb.circuitConfig.baseTimeoutSecs ≤ openedAt.elapsed (now addr)

theorem OpenedCounted.rewrite {lb after : LoadBalancer} (counted : lb.OpenedCounted)
    (addr : String) (update : Node → Node)
    (found : ∀ other, after.nodes.lookup other =
      if other = addr then (lb.nodes.lookup other).map update else lb.nodes.lookup other) :
    after.OpenedCounted ↔ ∀ node, lb.nodes.lookup addr = some node → (update node).Counted := by
  constructor
  · intro still node present
    exact still addr (update node) (by simp [found, present])
  · intro kept other node present
    rw [found] at present
    split at present
    next same =>
      obtain ⟨before, here, rfl⟩ := Option.map_eq_some_iff.mp present
      exact kept before (same ▸ here)
    next => exact counted other node present

theorem enableNode_lookup (lb : LoadBalancer) (addr other : String) :
    (lb.enableNode addr).1.nodes.lookup other =
      if other = addr then (lb.nodes.lookup other).map Node.reenabled
      else lb.nodes.lookup other := by
  unfold enableNode
  cases found : lb.nodes.lookup addr with
  | none =>
      by_cases same : other = addr
      · subst same
        simp [found]
      · simp [same]
  | some node => exact joinRotation_lookup lb addr other

theorem OpenedCounted.step {lb : LoadBalancer} (counted : lb.OpenedCounted)
    (operation : Operation)
    (joins : ∀ addr, operation ≠ .enableNode addr ∧ operation ≠ .autoEnableNode addr)
    (checks : ∀ addr status checkedAt now,
      operation ≠ .updateHealthStatus addr status checkedAt now) :
    (lb.perform operation).1.OpenedCounted := by
  intro addr after found
  rcases perform_nodeStep lb operation addr after found with ⟨_, _, rfl⟩ | ⟨before, present, step⟩
  · simp [Node.Counted, Node.new]
  · have start := counted addr before present
    cases step with
    | quiet _ _ same failures => exact Node.counted_of_same start same failures
    | reenabled _ either => exact absurd either (not_or.mpr (joins addr))
    | checked => exact (checks _ _ _ _ rfl).elim
    | timed now => exact Node.timeoutChecked_counted _ _ _ start

theorem perform_openedCounted_iff (lb : LoadBalancer)
    (threshold : 1 ≤ lb.circuitConfig.failureThreshold) (operation : Operation)
    (counted : lb.OpenedCounted) :
    (lb.perform operation).1.OpenedCounted ↔ lb.CountKept operation := by
  cases operation with
  | enableNode addr =>
      refine (counted.rewrite addr Node.reenabled (lb.enableNode_lookup addr)).trans ?_
      simp only [Node.reenabled_counted_iff]
      rfl
  | autoEnableNode addr =>
      refine (counted.rewrite addr Node.autoEnabled (autoEnableNode_lookup lb addr)).trans ?_
      apply forall₂_congr
      intro node present
      by_cases recovered : node.disableReason = some .healthCheck
      · simp [Node.autoEnabled, recovered, Node.reenabled_counted_iff]
      · simp [Node.autoEnabled, recovered, counted addr node present]
  | updateHealthStatus addr status checkedAt now =>
      refine (counted.rewrite addr _
        (updateHealthStatus_lookup lb addr · status checkedAt now)).trans ?_
      simp only [Node.healthChecked_counted_iff _ threshold]
      rfl
  | _ => exact iff_of_true (counted.step _ (by simp) (by simp)) trivial

theorem withConfig_openedCounted (nodeAddrs : List String) (config : CircuitBreakerConfig) :
    (withConfig nodeAddrs config).OpenedCounted := by
  intro addr node found
  obtain ⟨_, rfl⟩ : addr ∈ nodeAddrs ∧ Node.new addr = node := by
    simpa [withConfig] using found
  simp [Node.Counted, Node.new]

theorem throughout_counted_iff (lb : LoadBalancer)
    (threshold : 1 ≤ lb.circuitConfig.failureThreshold) (operations : List Operation)
    (counted : lb.OpenedCounted) :
    machine.Throughout OpenedCounted lb operations ↔ machine.EachStep CountKept lb operations := by
  refine machine.throughout_iff_eachStep (fun lb => 1 ≤ lb.circuitConfig.failureThreshold) _ _ ?_ ?_
    lb operations threshold counted
  · intro lb operation threshold
    exact (perform_circuitConfig lb operation).symm ▸ threshold
  · intro lb operation threshold counted
    exact perform_openedCounted_iff lb threshold operation counted

theorem perform_backsOff (lb : LoadBalancer) (operation : Operation)
    (grows : 1 ≤ lb.circuitConfig.backoffMultiplier)
    (fits : lb.circuitConfig.baseTimeoutSecs.toNat * 1000 ≤
      (lb.circuitConfig.maxTimeoutSecs * 1000).toNat)
    (counted : lb.OpenedCounted) (representable : lb.CountRepresentable operation) :
    lb.BacksOff operation := by
  intro addr before after present found opened halfOpen
  rcases perform_nodeStep lb operation addr after found with ⟨_, absent, _⟩ | ⟨node, here, step⟩
  · simp [present] at absent
  obtain rfl : before = node := by simpa [present] using here
  cases step with
  | quiet _ _ same =>
      rw [same.1, opened] at halfOpen
      cases halfOpen
  | reenabled =>
      rw [show before.reenabled.circuitState = .opened from opened] at halfOpen
      cases halfOpen
  | checked status checkedAt now =>
      have still : (before.healthChecked lb.circuitConfig status checkedAt now).circuitState =
          .opened := by
        cases status <;> simp [Node.healthChecked, opened]
      rw [still] at halfOpen
      cases halfOpen
  | timed now =>
      by_cases due : before.Due lb.circuitConfig (now addr)
      · obtain ⟨_, openedAt, since, waited⟩ := due
        refine ⟨openedAt, now, since, rfl, le_trans ?_ waited⟩
        have some' := counted addr before present opened
        rcases representable addr before present opened with small | constant | immediate
        · exact lb.circuitConfig.calculateTimeout_ge grows fits _ (.inl ⟨some', small⟩)
        · exact lb.circuitConfig.calculateTimeout_ge grows fits _ (.inr constant)
        · simp [Duration.fromSecs, immediate]
      · rw [Node.timeoutChecked_not_due due, opened] at halfOpen
        cases halfOpen

theorem open_circuits_back_off (nodeAddrs : List String) (config : CircuitBreakerConfig)
    (grows : 1 ≤ config.backoffMultiplier) (threshold : 1 ≤ config.failureThreshold)
    (operations : List Operation) :
    (machine.Throughout OpenedCounted (withConfig nodeAddrs config) operations ↔
      machine.EachStep CountKept (withConfig nodeAddrs config) operations) ∧
    (config.baseTimeoutSecs.toNat * 1000 ≤ (config.maxTimeoutSecs * 1000).toNat →
      machine.EachStep (fun lb operation => lb.CountKept operation ∧
        lb.CountRepresentable operation) (withConfig nodeAddrs config) operations →
      machine.EachStep BacksOff (withConfig nodeAddrs config) operations) := by
  have initial := withConfig_openedCounted nodeAddrs config
  refine ⟨throughout_counted_iff _ threshold operations initial, fun fits steps => ?_⟩
  refine machine.eachStep_of_invariant
    (fun lb => lb.circuitConfig = config ∧ lb.OpenedCounted) _ _ ?_ ?_ _ _ ⟨rfl, initial⟩ steps
  · rintro lb operation ⟨rfl, counted⟩ ⟨kept, _⟩
    exact ⟨perform_circuitConfig lb operation,
      (perform_openedCounted_iff lb threshold operation counted).mpr kept⟩
  · rintro lb operation ⟨rfl, counted⟩ ⟨_, representable⟩
    exact perform_backsOff lb operation grows fits counted representable

def tripped : List Operation :=
  -- The default threshold is five failures.
  List.replicate 5 (.updateHealthStatus "http://a" (.unhealthy "refused") 0 0)

theorem open_circuits_back_off_witness :
    machine.Throughout OpenedCounted (withConfig ["http://a"] .default)
        (tripped ++ [.checkCircuitTimeouts fun _ => 300000000000]) ∧
      machine.EachStep BacksOff (withConfig ["http://a"] .default)
        (tripped ++ [.checkCircuitTimeouts fun _ => 300000000000]) := by
  obtain ⟨counted, waited⟩ := open_circuits_back_off ["http://a"] .default (by decide)
    (by decide) (tripped ++ [.checkCircuitTimeouts fun _ => 300000000000])
  exact ⟨counted.mpr (by decide +kernel), waited (by decide) (by decide +kernel)⟩

theorem open_circuit_forgets_failures :
    let lb := machine.run (new ["http://a"]) (tripped ++ [.enableNode "http://a"])
    let after := (lb.perform (.checkCircuitTimeouts fun _ => 16000000000)).1
    -- Opened at 0 with a base timeout of 30 s, and probed after 16 s.
    (lb.nodes.lookup "http://a").map (fun node =>
        (node.circuitState, node.consecutiveFailures, node.circuitOpenedAt)) =
      some (.opened, 0, some 0) ∧
    lb.circuitConfig.baseTimeoutSecs = 30 ∧
    after.circuitState "http://a" = some .halfOpen := by
  decide +kernel

end LoadBalancer

end MadRpc
