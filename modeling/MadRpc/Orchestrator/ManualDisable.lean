import MadRpc.Orchestrator.Orchestrator

set_option autoImplicit false

namespace MadRpc

def Operation.lifts (addr : String) : Operation → Bool
  | .enableNode other | .removeNode other => other = addr
  | _ => false

def OrchestratorStep.lifts (addr : String) : OrchestratorStep → Bool
  | .call operation => operation.lifts addr
  | .registerNode nodeUrl => nodeUrl = addr
  | _ => false

namespace LoadBalancer

def ManuallyDisabled (addr : String) (lb : LoadBalancer) : Prop :=
  ∃ node, lb.nodes.lookup addr = some node ∧ node.enabled = false ∧
    node.disableReason = some .manual

instance (addr : String) : DecidablePred (ManuallyDisabled addr) := fun lb =>
  decidable_of_iff ((lb.nodes.lookup addr).any fun node =>
      !node.enabled && decide (node.disableReason = some .manual)) <| by
    simp [ManuallyDisabled, Option.any_eq_true]

theorem ManuallyDisabled.refresh {addr : String} {lb after : LoadBalancer}
    (disabled : ManuallyDisabled addr lb) (refreshed : Refreshed lb after) :
    ManuallyDisabled addr after := by
  obtain ⟨node, found, off, manual⟩ := disabled
  obtain ⟨update, same, updated⟩ := refreshed.nodes addr
  obtain ⟨_, enabled, reason⟩ := same node
  exact ⟨update node, by simp [updated, found], enabled.trans off, reason.trans manual⟩

theorem perform_manuallyDisabled (addr : String) (lb : LoadBalancer) (operation : Operation)
    (disabled : ManuallyDisabled addr lb) (keeps : operation.lifts addr = false) :
    ManuallyDisabled addr (lb.perform operation).1 := by
  have change := perform_change lb operation
  generalize (lb.perform operation).1 = after, (lb.perform operation).2 = reply at change
  have ⟨node, found, off, manual⟩ := disabled
  -- Another address is rewritten, added or removed.
  have elsewhere (after : LoadBalancer)
      (same : after.nodes.lookup addr = lb.nodes.lookup addr) : ManuallyDisabled addr after :=
    ⟨node, same.trans found, off, manual⟩
  cases change with
  | select now => exact disabled.refresh (afterSelection_refreshed lb now)
  | check other status checkedAt now =>
      exact disabled.refresh (updateHealthStatus_refreshed lb other status checkedAt now)
  | timeouts now => exact disabled.refresh (checkCircuitTimeouts_refreshed lb now)
  | refused | known => exact elsewhere lb rfl
  | disabled other =>
      by_cases same : addr = other
      · exact ⟨node.disabledFor .manual, by simp [← same, found], rfl, rfl⟩
      · exact elsewhere _ (by simp [same])
  -- The automatic changes read the reason first, and a manual one refuses them.
  | autoDisabled other _ there free =>
      have different : addr ≠ other := by
        rintro rfl
        exact free (Option.some.inj (there.symm.trans found) ▸ manual)
      exact elsewhere _ (by simp [different])
  | autoEnabled other _ there recovered =>
      have different : addr ≠ other := by
        rintro rfl
        obtain rfl := Option.some.inj (there.symm.trans found)
        simp [manual] at recovered
      exact elsewhere _ (by simp [different])
  | enabled other | removed other =>
      have different : addr ≠ other := by simpa [Operation.lifts, eq_comm] using keeps
      exact elsewhere _ (by simp [different])
  | added other absent =>
      have different : addr ≠ other := by
        rintro rfl
        exact absent (AList.lookup_isSome.mp (by simp [found]))
      exact elsewhere _ (by simp [different])

theorem perform_not_selected (addr : String) (lb : LoadBalancer) (operation : Operation)
    (consistent : Consistent lb) (disabled : ManuallyDisabled addr lb) :
    (lb.perform operation).2 ≠ .selected (some addr) := by
  have change := perform_change lb operation
  generalize (lb.perform operation).1 = after, (lb.perform operation).2 = reply at change
  cases change with
  | select now =>
      -- The rotation does not list a disabled address.
      intro selected
      obtain ⟨node, found, off, _⟩ := disabled
      obtain ⟨other, there, on⟩ :=
        (consistent.rotation addr).mp (chosen_mem lb addr (Reply.selected.inj selected))
      rw [Option.some.inj (there.symm.trans found), off] at on
      cases on
  | _ => exact fun selected => by cases selected

end LoadBalancer

namespace Orchestrator

open LoadBalancer (ManuallyDisabled)

theorem operations_lift (addr : String) (state : Orchestrator) (input : OrchestratorStep)
    (keeps : input.lifts addr = false) :
    ∀ operation ∈ state.operations input, operation.lifts addr = false := by
  cases input with
  | call operation =>
      intro only member
      rw [List.mem_singleton.mp member]
      exact keeps
  | registerNode nodeUrl =>
      have different : nodeUrl ≠ addr := by simpa [OrchestratorStep.lifts] using keeps
      simp only [operations]
      split <;> simp [Operation.lifts, different]
  | checkTimeouts now =>
      simp only [operations]
      split <;> simp [Operation.lifts]
  | snapshot order => simp [operations]
  | processResult result => simp [operations]
  | applyUpdate checkedAt now =>
      simp only [operations]
      split
      next update _ _ =>
        cases enable : update.shouldEnable <;> cases disable : update.shouldDisable <;>
          simp [HealthCheckUpdate.operations, enable, disable, Operation.lifts]
      next => simp

theorem step_manuallyDisabled (addr : String) (state : Orchestrator) (input : OrchestratorStep)
    (disabled : ManuallyDisabled addr state.loadBalancer) (keeps : input.lifts addr = false) :
    ManuallyDisabled addr (state.step input).1.loadBalancer := by
  rw [step_correct]
  exact LoadBalancer.machine.run_invariant_of_steps (ManuallyDisabled addr)
    (fun _ operation => operation.lifts addr = false)
    (LoadBalancer.perform_manuallyDisabled addr) _ _ disabled
    (LoadBalancer.machine.eachStep_of_forall _ _ _ (operations_lift addr state input keeps))

theorem step_not_selected (addr : String) (state : Orchestrator) (input : OrchestratorStep)
    (consistent : state.loadBalancer.Consistent)
    (disabled : ManuallyDisabled addr state.loadBalancer) :
    (state.step input).2 ≠ .returned (.selected (some addr)) := by
  cases input with
  | call operation =>
      intro selected
      exact LoadBalancer.perform_not_selected addr _ operation consistent disabled
        (OrchestratorReply.returned.inj selected)
  | registerNode nodeUrl => exact fun selected => by cases selected
  | checkTimeouts | snapshot | processResult | applyUpdate =>
      simp only [step]
      repeat' split
      all_goals exact fun selected => by cases selected

theorem outputs_not_selected (addr : String) (state : Orchestrator)
    (steps : List OrchestratorStep) (consistent : state.loadBalancer.Consistent)
    (disabled : ManuallyDisabled addr state.loadBalancer)
    (keeps : ∀ input ∈ steps, input.lifts addr = false) :
    .returned (.selected (some addr)) ∉ machine.outputs state steps := by
  have kept := machine.eachStep_of_forall (fun input => input.lifts addr = false) state steps keeps
  have yields := machine.forall_outputs
    (fun state => state.loadBalancer.Consistent ∧ ManuallyDisabled addr state.loadBalancer) _
    (fun output => output ≠ .returned (.selected (some addr)))
    (fun state input holds keeps => ⟨run_balancer_consistent state [input] holds.1,
      step_manuallyDisabled addr state input holds.2 keeps⟩)
    (fun state input holds _ => step_not_selected addr state input holds.1 holds.2)
    state steps ⟨consistent, disabled⟩ kept
  exact fun selected => yields _ selected rfl

theorem manual_disable_sticky (nodeAddrs : List String) (circuitConfig : CircuitBreakerConfig)
    (healthConfig : HealthCheckConfig) (before after : List OrchestratorStep) (addr : String)
    (disabled : (machine.step
        (machine.run (start (.withConfig nodeAddrs circuitConfig) healthConfig) before)
        (.call (.disableNode addr))).2 = .returned (.flag true))
    (keeps : ∀ input ∈ after, input.lifts addr = false) :
    let state := (machine.step
      (machine.run (start (.withConfig nodeAddrs circuitConfig) healthConfig) before)
      (.call (.disableNode addr))).1
    machine.Throughout (fun state => ManuallyDisabled addr state.loadBalancer) state after ∧
      .returned (.selected (some addr)) ∉ machine.outputs state after := by
  have consistent := run_balancer_consistent _ before
    (show (start (.withConfig nodeAddrs circuitConfig) healthConfig).loadBalancer.Consistent from
      LoadBalancer.withConfig_consistent nodeAddrs circuitConfig)
  generalize machine.run (start (.withConfig nodeAddrs circuitConfig) healthConfig) before = prior
    at *
  have off : ManuallyDisabled addr
      (prior.step (.call (.disableNode addr))).1.loadBalancer := by
    have change := LoadBalancer.perform_change prior.loadBalancer (.disableNode addr)
    have answered : (prior.loadBalancer.perform (.disableNode addr)).2 = .flag true :=
      OrchestratorReply.returned.inj disabled
    simp only [step]
    generalize (prior.loadBalancer.perform (.disableNode addr)).1 = next,
      (prior.loadBalancer.perform (.disableNode addr)).2 = reply at change answered
    cases change with
    | refused => simp at answered
    | disabled _ node found =>
        exact ⟨node.disabledFor .manual, by simp [found], rfl, rfl⟩
  exact ⟨machine.throughout_of_steps _ (fun _ input => input.lifts addr = false)
      (step_manuallyDisabled addr) _ _ off (machine.eachStep_of_forall _ _ _ keeps),
    outputs_not_selected addr _ after
      (run_balancer_consistent prior [.call (.disableNode addr)] consistent) off keeps⟩

theorem manual_disable_sticky_witness :
    -- A decision about the node is pending when the operator disables it.
    let before : List OrchestratorStep :=
      [.checkTimeouts fun _ => 0, .snapshot ["http://b", "http://a"],
        .processResult (.ok ()), .applyUpdate 1 1,
        .processResult (.error (.transport "refused"))]
    let after : List OrchestratorStep :=
      [.applyUpdate 2 2, .call (.nextNode 3), .checkTimeouts fun _ => 4,
        .snapshot ["http://a", "http://b"], .processResult (.ok ()), .applyUpdate 5 5,
        .call (.addNode "http://a"), .call (.nextNode 6)]
    let state := (machine.step
      (machine.run (start (.withConfig ["http://a", "http://b"] .default) ⟨1⟩) before)
      (.call (.disableNode "http://a"))).1
    machine.Throughout (fun state => ManuallyDisabled "http://a" state.loadBalancer) state after ∧
      .returned (.selected (some "http://a")) ∉ machine.outputs state after :=
  manual_disable_sticky ["http://a", "http://b"] .default ⟨1⟩ _ _ "http://a" rfl (by decide)

end Orchestrator

end MadRpc
