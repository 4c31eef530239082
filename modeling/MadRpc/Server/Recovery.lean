import MadRpc.Server.Liveness

set_option autoImplicit false

namespace MadRpc

/-- Only the health checker can have taken the node out, and its circuit lets requests pass. -/
structure Node.Recovering (node : Node) : Prop where
  free : node.disableReason ≠ some .manual
  unopened : node.circuitState ≠ .opened

namespace Node

theorem Recovering.kept : Kept Recovering where
  served _ _ recovering := ⟨recovering.free, recovering.unopened⟩
  reenabled _ recovering := ⟨(Option.some_ne_none _).symm, recovering.unopened⟩
  timeoutChecked node config now recovering := by
    rwa [timeoutChecked_not_due fun due => recovering.unopened due.1]
  healthChecked node config checkedAt now recovering := by
    obtain ⟨-, -, reason⟩ := node.healthChecked_membership config .healthy checkedAt now
    refine ⟨by rw [reason]; exact recovering.free, ?_⟩
    simp only [Node.healthChecked]
    split
    next =>
      intro opened
      cases opened
    next => exact recovering.unopened

theorem enabled_kept : Kept fun node => node.enabled = true where
  served _ _ enabled := enabled
  reenabled _ _ := rfl
  timeoutChecked node config now enabled :=
    (node.timeoutChecked_membership config now).2.1.trans enabled
  healthChecked node config checkedAt now enabled :=
    (node.healthChecked_membership config .healthy checkedAt now).2.1.trans enabled

theorem Recovering.timeoutChecked {node : Node} (coherent : node.CircuitCoherent)
    (free : node.disableReason ≠ some .manual) (config : CircuitBreakerConfig) (now : SystemTime)
    (due : node.circuitState = .opened → node.Due config now) :
    (node.timeoutChecked config now).1.Recovering := by
  by_cases opened : node.circuitState = .opened
  · rw [timeoutChecked_due (due opened) coherent]
    exact ⟨free, nofun⟩
  · rw [timeoutChecked_not_due fun due => opened due.1]
    exact ⟨free, opened⟩

theorem Recovering.healthApplied {node : Node} (recovering : node.Recovering)
    (reasons : node.enabled = true ↔ node.disableReason = none) (config : CircuitBreakerConfig)
    (update : HealthCheckUpdate) (checkedAt : Instant) (now : SystemTime)
    (passed : update.status = .healthy) (kept : update.shouldDisable = false)
    (enables : update.shouldEnable = false → node.enabled = true) :
    (node.healthApplied config update checkedAt now).InService := by
  have checked := Recovering.kept.healthChecked node config checkedAt now recovering
  have unfailed := node.healthChecked_healthy config checkedAt now
  obtain ⟨-, enabled, reason⟩ := node.healthChecked_membership config .healthy checkedAt now
  have serving (on : node.enabled = true) :
      (node.healthChecked config .healthy checkedAt now).InService :=
    ⟨enabled.trans on, reason.trans (reasons.mp on), unfailed, checked.unopened⟩
  simp only [Node.healthApplied, kept, Bool.false_eq_true, if_false, Node.healthRecorded, passed]
  cases enabling : update.shouldEnable with
  | false => exact serving (enables enabling)
  | true =>
      rw [if_pos rfl, Node.autoEnabled]
      split
      next => exact ⟨rfl, rfl, rfl, checked.unopened⟩
      next other =>
        refine serving (reasons.mpr ?_)
        rw [reason] at other
        cases cause : node.disableReason with
        | none => rfl
        | some why =>
            cases why with
            | manual => exact absurd cause recovering.free
            | healthCheck => exact absurd cause other

end Node

theorem LoadBalancer.Holds.run {holds : Node → Prop} {addr : String} {lb : LoadBalancer}
    (kept : Node.Kept holds) (here : lb.Holds holds addr) (operations : List Operation)
    (harmless : ∀ operation ∈ operations, Harmless addr operation) :
    (machine.run lb operations).Holds holds addr :=
  machine.run_invariant_of_steps (Holds holds addr) (fun _ => Harmless addr)
    (fun _ operation here harmless => here.perform kept operation harmless) lb operations here
    (machine.eachStep_of_forall _ lb operations harmless)

def CheckerPhase.copies : CheckerPhase → List Node
  | .timeoutsChecked => []
  | .processing pending | .applying _ pending => pending

namespace Orchestrator

/-- What the checker holds of the node will bring it back, or finds it back already. -/
structure Returning (addr : String) (state : Orchestrator) : Prop where
  consistent : state.loadBalancer.Consistent
  recovering : state.loadBalancer.Holds Node.Recovering addr
  copies : ∀ node ∈ state.checker.copies, node.addr = addr →
    node.disableReason = some .healthCheck ∧ node.enabled = false ∨
      state.loadBalancer.Holds (fun node => node.enabled = true) addr
  update : ∀ update pending, state.checker = .applying update pending → update.nodeAddr = addr →
    update.status = .healthy ∧ update.shouldDisable = false ∧
      (update.shouldEnable = true ∨
        state.loadBalancer.Holds (fun node => node.enabled = true) addr)

section

variable {display : Value → String} {timeoutMs : UInt64} {procedures : Procedures}
  {addr : String} {state : Orchestrator}

theorem Returning.unthreatened (returning : Returning addr state) : Unthreatened addr state :=
  fun update pending applying same =>
    (returning.update update pending applying same).imp_right And.left

theorem Returning.holds (returning : Returning addr state) {holds : Node → Prop}
    (kept : Node.Kept holds) (here : state.loadBalancer.Holds holds addr)
    (step : OrchestratorStep) (spares : Spares display timeoutMs procedures addr state step) :
    (state.step step).1.loadBalancer.Holds holds addr := by
  rw [step_correct]
  exact here.run kept _ (returning.unthreatened.operations step spares)

theorem Returning.step_of (returning : Returning addr state) (step : OrchestratorStep)
    (spares : Spares display timeoutMs procedures addr state step)
    (copies : ∀ node ∈ (state.step step).1.checker.copies, node.addr = addr →
      node ∈ state.checker.copies ∨ node.disableReason = some .healthCheck ∧ node.enabled = false ∨
        state.loadBalancer.Holds (fun node => node.enabled = true) addr)
    (update : ∀ update pending, (state.step step).1.checker = .applying update pending →
      update.nodeAddr = addr → state.checker = .applying update pending ∨
        update.status = .healthy ∧ update.shouldDisable = false ∧
          (update.shouldEnable = true ∨
            state.loadBalancer.Holds (fun node => node.enabled = true) addr)) :
    Returning addr (state.step step).1 where
  consistent := run_balancer_consistent state [step] returning.consistent
  recovering := returning.holds Node.Recovering.kept returning.recovering step spares
  copies node member same := by
    have later (here : state.loadBalancer.Holds (fun node => node.enabled = true) addr) :=
      returning.holds Node.enabled_kept here step spares
    rcases copies node member same with old | new
    · exact (returning.copies node old same).imp_right later
    · exact new.imp_right later
  update told pending applying same := by
    have later (here : state.loadBalancer.Holds (fun node => node.enabled = true) addr) :=
      returning.holds Node.enabled_kept here step spares
    rcases update told pending applying same with old | ⟨passed, kept, enables⟩
    · obtain ⟨passed, kept, enables⟩ := returning.update told pending old same
      exact ⟨passed, kept, enables.imp_right later⟩
    · exact ⟨passed, kept, enables.imp_right later⟩

theorem Returning.copied (returning : Returning addr state) {order : List String}
    (iterated : order.Perm state.loadBalancer.nodes.keys) (node : Node)
    (member : node ∈ state.loadBalancer.allNodes order) (same : node.addr = addr) :
    node.disableReason = some .healthCheck ∧ node.enabled = false ∨
      state.loadBalancer.Holds (fun node => node.enabled = true) addr := by
  obtain ⟨key, found⟩ := (LoadBalancer.mem_allNodes iterated node).mp member
  obtain rfl : key = addr := (returning.consistent.keyed key node found).symm.trans same
  have reasons := returning.consistent.reasons key node found
  obtain ⟨other, there, recovering⟩ := returning.recovering
  obtain rfl := Option.some.inj (found.symm.trans there)
  cases on : node.enabled with
  | true => exact .inr ⟨node, found, on⟩
  | false =>
      refine .inl ⟨?_, rfl⟩
      cases cause : node.disableReason with
      | none => exact absurd (on.symm.trans (reasons.mpr cause)) nofun
      | some why =>
          cases why with
          | manual => exact absurd cause recovering.free
          | healthCheck => rfl

theorem Returning.step (returning : Returning addr state) (step : OrchestratorStep)
    (spares : Spares display timeoutMs procedures addr state step) :
    Returning addr (state.step step).1 := by
  have unchanged (same : (state.step step).1.checker = state.checker) :
      Returning addr (state.step step).1 :=
    returning.step_of step spares (fun node member _ => .inl (same ▸ member))
      fun update pending applying _ => .inl (same ▸ applying)
  cases step with
  | call | registerNode => exact unchanged rfl
  | checkTimeouts now =>
      cases at' : state.checker with
      | timeoutsChecked | applying => exact unchanged (by simp only [Orchestrator.step, at'])
      | processing pending =>
          cases pending with
          | cons => exact unchanged (by simp only [Orchestrator.step, at'])
          | nil =>
              refine returning.step_of _ spares ?_ ?_ <;> simp only [Orchestrator.step, at']
              · exact fun _ none' => absurd none' List.not_mem_nil
              · intro _ _ applying
                cases applying
  | snapshot order =>
      cases at' : state.checker with
      | processing | applying => exact unchanged (by simp only [Orchestrator.step, at'])
      | timeoutsChecked =>
          by_cases iterated : order.Perm state.loadBalancer.nodes.keys
          · refine returning.step_of _ spares ?_ ?_ <;>
              simp only [Orchestrator.step, at', if_pos iterated]
            · exact fun node member same => .inr (returning.copied iterated node member same)
            · intro _ _ applying
              cases applying
          · exact unchanged (by simp only [Orchestrator.step, at', if_neg iterated])
  | processResult result =>
      cases at' : state.checker with
      | timeoutsChecked | applying => exact unchanged (by simp only [Orchestrator.step, at'])
      | processing pending =>
          cases pending with
          | nil => exact unchanged (by simp only [Orchestrator.step, at'])
          | cons node pending =>
              refine returning.step_of _ spares ?_ ?_ <;> simp only [Orchestrator.step, at']
              · exact fun other member _ => .inl (List.mem_cons_of_mem node member)
              · rintro _ _ ⟨⟩ same
                have target : node.addr = addr := by rwa [processHealthResult_nodeAddr] at same
                obtain ⟨posts, passes, rfl⟩ := spares node pending at' target
                rw [HealthChecker.checkNodeHealth_passes display timeoutMs procedures posts addr
                  passes]
                refine .inr ⟨rfl, rfl, ?_⟩
                have held := returning.copies node (by rw [at']; exact List.mem_cons_self) target
                refine held.imp_left fun disabled => ?_
                simp [processHealthResult, disabled.1, disabled.2]
  | applyUpdate checkedAt now =>
      cases at' : state.checker with
      | timeoutsChecked | processing => exact unchanged (by simp only [Orchestrator.step, at'])
      | applying update pending =>
          refine returning.step_of _ spares ?_ ?_ <;> simp only [Orchestrator.step, at']
          · exact fun other member _ => .inl member
          · intro _ _ applying
            cases applying

theorem Returning.applied (returning : Returning addr state) {update : HealthCheckUpdate}
    {pending : List Node} (applying : state.checker = .applying update pending)
    (same : update.nodeAddr = addr) (checkedAt : Instant) (now : SystemTime) :
    (state.step (.applyUpdate checkedAt now)).1.loadBalancer.InService addr := by
  obtain ⟨passed, kept, enables⟩ := returning.update update pending applying same
  obtain ⟨node, found, recovering⟩ := returning.recovering
  simp only [Orchestrator.step, applying]
  refine ⟨_, by rw [applyHealthUpdate_lookup, if_pos same.symm, found, Option.map_some], ?_⟩
  refine recovering.healthApplied (returning.consistent.reasons addr node found) _ update
    checkedAt now passed kept fun disabled => ?_
  rcases enables with enabling | ⟨other, there, on⟩
  · exact absurd (disabled.symm.trans enabling) Bool.false_ne_true
  · obtain rfl := Option.some.inj (found.symm.trans there)
    exact on

end

def Ready (addr : String) (now : String → SystemTime) (lb : LoadBalancer) : Prop :=
  ∃ node, lb.nodes.lookup addr = some node ∧ node.disableReason ≠ some .manual ∧
    (node.circuitState = .opened → node.Due lb.circuitConfig (now addr))

theorem Ready.returning {addr : String} {now : String → SystemTime} {state : Orchestrator}
    (ready : Ready addr now state.loadBalancer) (consistent : state.loadBalancer.Consistent)
    (coherent : state.loadBalancer.CircuitsCoherent) (idle : state.checker = .processing []) :
    Returning addr (state.step (.checkTimeouts now)).1 := by
  obtain ⟨node, found, free, due⟩ := ready
  refine ⟨run_balancer_consistent state [.checkTimeouts now] consistent, ?_, ?_, ?_⟩ <;>
    simp only [Orchestrator.step, idle]
  · exact ⟨_, by rw [LoadBalancer.checkCircuitTimeouts_lookup, found, Option.map_some],
      .timeoutChecked (coherent addr node found) free _ _ due⟩
  · exact fun _ none' => absurd none' List.not_mem_nil
  · intro _ _ applying
    cases applying

/-- However the callers' steps fall between those of a round, a node that passes the check of the
round is in service once its update is applied, and stays so as long as it passes its checks. -/
theorem recovered_node_served (display : Value → String) (timeoutMs : UInt64)
    (procedures : Procedures) (nodeAddrs : List String) (circuitConfig : CircuitBreakerConfig)
    (healthConfig : HealthCheckConfig) (history : List OrchestratorStep)
    (timeoutsAt : String → SystemTime) (steps : List OrchestratorStep) (addr : String)
    (state later back : Orchestrator) (update : HealthCheckUpdate) (pending : List Node)
    (checkedAt : Instant) (now : SystemTime)
    (reached : machine.run (start (.withConfig nodeAddrs circuitConfig) healthConfig) history =
      state)
    (idle : state.checker = .processing []) (ready : Ready addr timeoutsAt state.loadBalancer)
    (spared : machine.EachStep (Spares display timeoutMs procedures addr) state
      (.checkTimeouts timeoutsAt :: steps))
    (ended : machine.run state (.checkTimeouts timeoutsAt :: steps) = later)
    (applying : later.checker = .applying update pending) (checked : update.nodeAddr = addr)
    (applied : (later.step (.applyUpdate checkedAt now)).1 = back) :
    back.loadBalancer.InService addr ∧ addr ∈ back.loadBalancer.enabledNodes ∧
      ∀ rest, machine.EachStep (Spares display timeoutMs procedures addr) back rest →
        LoadBalancer.machine.Throughout (LoadBalancer.InService addr) back.loadBalancer
          (trace back rest) := by
  have consistent : state.loadBalancer.Consistent := by
    rw [← reached]
    exact run_balancer_consistent _ history
      (LoadBalancer.withConfig_consistent nodeAddrs circuitConfig)
  have coherent : state.loadBalancer.CircuitsCoherent := by
    rw [← reached, run_correct]
    exact LoadBalancer.run_circuitsCoherent nodeAddrs circuitConfig _
  have returning : Returning addr later := by
    rw [← ended]
    exact machine.run_invariant_of_steps (Returning addr)
      (Spares display timeoutMs procedures addr)
      (fun _ step returning spares => returning.step step spares) _ steps
      (ready.returning consistent coherent idle) spared.2
  have inService : back.loadBalancer.InService addr := by
    rw [← applied]
    exact returning.applied applying checked checkedAt now
  have sound : back.loadBalancer.Consistent := by
    rw [← applied]
    exact run_balancer_consistent later [.applyUpdate checkedAt now] returning.consistent
  have unthreatened : Unthreatened addr back := by
    rw [← applied]
    simp only [Orchestrator.step, applying]
    intro _ _ other
    cases other
  exact ⟨inService, inService.listed sound, fun rest spared =>
    inService.run _ (unthreatened.trace rest spared)⟩

/-! A node fails its check, which takes it out and opens its circuit, and passes the next one. -/

def failedRound : List OrchestratorStep :=
  [.checkTimeouts fun _ => 0, .snapshot ["http://a"],
    .processResult (.error (.transport "HTTP request failed: connection refused")),
    .applyUpdate 1 1]

example :
    (machine.run (start (.withConfig ["http://a"] brittle) ⟨1⟩)
      failedRound).loadBalancer.enabledNodes = [] := by
  decide +kernel

def passedRound : List OrchestratorStep :=
  [.checkTimeouts fun _ => 40000000000, .snapshot ["http://a"], .processResult (.ok ()),
    .applyUpdate 40000000001 40000000001]

theorem recovered_node_served_witness :
    (machine.run (machine.run (start (.withConfig ["http://a"] brittle) ⟨1⟩) failedRound)
      passedRound).loadBalancer.InService "http://a" :=
  (recovered_node_served (fun _ => "null") 2000 .idle ["http://a"] brittle ⟨1⟩ failedRound
    (fun _ => 40000000000) [.snapshot ["http://a"], .processResult (.ok ())] "http://a" _ _ _ _ _
    40000000001 40000000001 rfl rfl
    ⟨_, rfl, by decide +kernel, fun _ => (Node.shouldAttemptHalfOpen_iff _ _ _).mp
      (by decide +kernel)⟩
    ⟨trivial, trivial, fun _ _ _ _ => ⟨fun _ => healthyNode, ⟨_, rfl, rfl⟩, rfl⟩, trivial⟩
    rfl rfl (by decide +kernel) rfl).1

end Orchestrator

end MadRpc
