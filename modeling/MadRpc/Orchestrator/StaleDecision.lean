import MadRpc.Orchestrator.Circuit
import MadRpc.Orchestrator.Orchestrator

set_option autoImplicit false

namespace MadRpc

def HealthEvent.Justified (config : HealthCheckConfig) (lb : LoadBalancer) : HealthEvent → Prop
  | .reenabled _ => True
  | .disabled addr failures _ =>
      lb.consecutiveFailures addr = failures ∧ config.failureThreshold ≤ failures

instance (config : HealthCheckConfig) (lb : LoadBalancer) :
    DecidablePred (HealthEvent.Justified config lb)
  | .reenabled _ => inferInstanceAs (Decidable True)
  | .disabled _ _ _ => inferInstanceAs (Decidable (_ ∧ _))

def OrchestratorReply.events : OrchestratorReply → List HealthEvent
  | .applied events => events
  | _ => []

/-- Whether to disable the node for one more failure would be for too few of them. A decision that
was right becomes so where the count starts anew, and is right again once the node is disabled by
hand, is gone or has failed often enough. -/
def LoadBalancer.outdates (threshold : UInt32) (addr : String) (lb : LoadBalancer)
    (input : OrchestratorStep) (outdated : Bool) : Bool :=
  match input with
  | .call (.enableNode other) =>
      if other = addr ∧ addr ∈ lb.nodes then decide (1 < threshold) else outdated
  | .call (.autoEnableNode other) =>
      if other = addr ∧
          (lb.nodes.lookup addr).any fun node => node.disableReason = some .healthCheck then
        decide (1 < threshold)
      else outdated
  | .call (.addNode other) =>
      if other = addr ∧ addr ∉ lb.nodes then decide (1 < threshold) else outdated
  | .registerNode nodeUrl =>
      if nodeUrl = addr ∧ isHttpUrl nodeUrl then decide (1 < threshold) else outdated
  | .call (.updateHealthStatus other status _ _) =>
      match lb.nodes.lookup addr with
      | some node =>
          if other = addr ∧ node.disableReason ≠ some .manual then
            match status with
            | .healthy => decide (1 < threshold)
            | .unhealthy _ => !decide (threshold ≤ node.consecutiveFailures + 1 + 1)
          else outdated
      | none => outdated
  | .call (.disableNode other) | .call (.removeNode other) =>
      if other = addr then false else outdated
  | _ => outdated

namespace Orchestrator

/-- Whether the pending decision of the health checker, if it is to disable a node, is outdated
after a step. -/
def outdated (state : Orchestrator) (input : OrchestratorStep) (outdated : Bool) : Bool :=
  match state.checker with
  | .applying update _ =>
      match input with
      | .applyUpdate _ _ => false
      | _ =>
          update.shouldDisable && state.loadBalancer.outdates state.healthConfig.failureThreshold
            update.nodeAddr input outdated
  | _ => false

def Timely (outdated : Bool) : OrchestratorStep → Prop
  | .applyUpdate _ _ => outdated = false
  | _ => True

instance (outdated : Bool) : DecidablePred (Timely outdated)
  | .applyUpdate _ _ => inferInstanceAs (Decidable (outdated = false))
  | .call _ | .registerNode _ | .checkTimeouts _ | .snapshot _ | .processResult _ =>
      inferInstanceAs (Decidable True)

def JustifiedDisables (state : Orchestrator) (input : OrchestratorStep) : Prop :=
  ∀ event ∈ (state.step input).2.events,
    event.Justified state.healthConfig (state.step input).1.loadBalancer

instance (state : Orchestrator) (input : OrchestratorStep) :
    Decidable (JustifiedDisables state input) :=
  inferInstanceAs (Decidable (∀ event ∈ (state.step input).2.events,
    event.Justified state.healthConfig (state.step input).1.loadBalancer))

end Orchestrator

structure HealthCheckUpdate.Disabling (update : HealthCheckUpdate) : Prop where
  failed : ∃ message, update.status = .unhealthy message
  keeps : update.shouldEnable = false

theorem LoadBalancer.consecutiveFailures_eq {lb : LoadBalancer} {addr : String} {node : Node}
    (found : lb.nodes.lookup addr = some node) :
    lb.consecutiveFailures addr = node.consecutiveFailures := by
  simp [consecutiveFailures, found]

def Node.exposed (threshold : UInt32) (node : Node) : Bool :=
  decide (node.disableReason ≠ some .manual) && !decide (threshold ≤ node.consecutiveFailures + 1)

def LoadBalancer.exposed (threshold : UInt32) (addr : String) (lb : LoadBalancer) : Bool :=
  (lb.nodes.lookup addr).any (Node.exposed threshold)

theorem processHealthResult_disabling (config : HealthCheckConfig) (lb : LoadBalancer)
    (node : Node) (result : Except MadrpcError Unit)
    (decided : (processHealthResult config lb node result).shouldDisable = true) :
    (processHealthResult config lb node result).Disabling ∧
      lb.exposed config.failureThreshold (processHealthResult config lb node result).nodeAddr =
        false := by
  cases result with
  | ok => simp [processHealthResult] at decided
  | error error =>
      have reached : config.failureThreshold ≤ lb.consecutiveFailures node.addr + 1 := by
        simp only [processHealthResult, Bool.and_eq_true, decide_eq_true_eq] at decided
        exact decided.1.1
      refine ⟨⟨⟨error.toString, rfl⟩, rfl⟩, ?_⟩
      show lb.exposed config.failureThreshold node.addr = false
      cases found : lb.nodes.lookup node.addr with
      | none => simp [LoadBalancer.exposed, found]
      | some current =>
          rw [LoadBalancer.consecutiveFailures_eq found] at reached
          simp [LoadBalancer.exposed, found, Node.exposed, reached]

/-! ## What an applied update logs -/

theorem undecided_events (config : HealthCheckConfig) (lb after : LoadBalancer)
    (update : HealthCheckUpdate) (checkedAt : Instant) (now : SystemTime)
    (undecided : update.shouldDisable = false) :
    ∀ event ∈ (applyHealthUpdate lb update checkedAt now).2, event.Justified config after := by
  intro event logged
  obtain rfl : event = .reenabled update.nodeAddr := by
    cases enable : update.shouldEnable with
    | false => simp [applyHealthUpdate, undecided, enable] at logged
    | true =>
        simp only [applyHealthUpdate, undecided, enable, if_true, Bool.false_eq_true, if_false,
          List.append_nil] at logged
        split at logged
        · exact List.mem_singleton.mp logged
        · simp at logged
  trivial

theorem decided_events (lb : LoadBalancer) (update : HealthCheckUpdate)
    (checkedAt : Instant) (now : SystemTime) (message : String)
    (decided : update.shouldDisable = true) (keeps : update.shouldEnable = false)
    (failed : update.status = .unhealthy message) :
    (applyHealthUpdate lb update checkedAt now).2 =
      match lb.nodes.lookup update.nodeAddr with
      | none => []
      | some node =>
          if node.disableReason = some .manual then []
          else [.disabled update.nodeAddr (node.consecutiveFailures + 1) message] := by
  -- Recording the status comes first: it counts the failure and leaves the reason alone.
  have membership (node : Node) :
      (node.healthChecked lb.circuitConfig (.unhealthy message) checkedAt now).disableReason =
        node.disableReason :=
    (node.healthChecked_membership lb.circuitConfig (.unhealthy message) checkedAt now).2.2
  have failures (node : Node) := node.healthChecked_failures lb.circuitConfig message checkedAt now
  cases found : lb.nodes.lookup update.nodeAddr with
  | none =>
      simp [applyHealthUpdate, decided, keeps, LoadBalancer.autoDisableNode, found]
  | some node =>
      by_cases manual : node.disableReason = some .manual <;>
        simp [applyHealthUpdate, decided, keeps, failed, LoadBalancer.autoDisableNode,
          LoadBalancer.consecutiveFailures, found, membership, failures, manual,
          HealthCheckStatus.errorMsg]

theorem decided_failures (lb : LoadBalancer) (update : HealthCheckUpdate)
    (checkedAt : Instant) (now : SystemTime) (message : String) (node : Node)
    (keeps : update.shouldEnable = false) (failed : update.status = .unhealthy message)
    (found : lb.nodes.lookup update.nodeAddr = some node) :
    (applyHealthUpdate lb update checkedAt now).1.consecutiveFailures update.nodeAddr =
      node.consecutiveFailures + 1 := by
  have failures := node.healthChecked_failures lb.circuitConfig message checkedAt now
  have stored : (applyHealthUpdate lb update checkedAt now).1.nodes.lookup update.nodeAddr =
      some (node.healthApplied lb.circuitConfig update checkedAt now) := by
    rw [applyHealthUpdate_lookup, if_pos rfl, found]
    rfl
  rw [LoadBalancer.consecutiveFailures_eq stored]
  simp only [Node.healthApplied, Node.healthRecorded, keeps, failed, Bool.false_eq_true, if_false]
  split
  · rw [← failures]
    unfold Node.autoDisabled
    split <;> rfl
  · exact failures

theorem HealthCheckUpdate.Disabling.justified_iff {config : HealthCheckConfig} {lb : LoadBalancer}
    {update : HealthCheckUpdate} (disabling : update.Disabling)
    (decided : update.shouldDisable = true) (checkedAt : Instant) (now : SystemTime) :
    (∀ event ∈ (applyHealthUpdate lb update checkedAt now).2,
        event.Justified config (applyHealthUpdate lb update checkedAt now).1) ↔
      lb.exposed config.failureThreshold update.nodeAddr = false := by
  obtain ⟨⟨message, failed⟩, keeps⟩ := disabling
  rw [decided_events lb update checkedAt now message decided keeps failed, LoadBalancer.exposed]
  cases found : lb.nodes.lookup update.nodeAddr with
  | none => simp
  | some node =>
      have counted := decided_failures lb update checkedAt now message node keeps failed found
      by_cases manual : node.disableReason = some .manual <;>
        simp [Node.exposed, manual, HealthEvent.Justified, counted]

/-! ## How a caller's step changes the ground of a decision -/

section

variable {lb after : LoadBalancer} {threshold : UInt32} {addr : String}

theorem exposed_update (update : Node → Node)
    (same : ∀ node, (update node).exposed threshold = node.exposed threshold)
    (found : after.nodes.lookup addr = (lb.nodes.lookup addr).map update) :
    after.exposed threshold addr = lb.exposed threshold addr := by
  rw [LoadBalancer.exposed, LoadBalancer.exposed, found]
  cases lb.nodes.lookup addr with
  | none => rfl
  | some node => exact same node

theorem exposed_kept (found : after.nodes.lookup addr = lb.nodes.lookup addr) :
    after.exposed threshold addr = lb.exposed threshold addr := by
  rw [LoadBalancer.exposed, LoadBalancer.exposed, found]

theorem exposed_of_fresh {node : Node} (found : after.nodes.lookup addr = some node)
    (reason : node.disableReason = none) (count : node.consecutiveFailures = 0) :
    after.exposed threshold addr = decide (1 < threshold) := by
  have next : (0 : UInt32) + 1 = 1 := by decide
  rw [LoadBalancer.exposed, found, Option.any_some, Node.exposed, reason, count, next]
  simp [← UInt32.not_le]

theorem joined_exposed {target : String} {node : Node}
    (found : lb.nodes.lookup target = some node) :
    (lb.joinRotation target).exposed threshold addr =
      if target = addr then decide (1 < threshold) else lb.exposed threshold addr := by
  have joined := LoadBalancer.joinRotation_lookup lb target addr
  by_cases here : target = addr
  · subst here
    rw [if_pos rfl, found] at joined
    rw [if_pos rfl]
    exact exposed_of_fresh joined rfl rfl
  · rw [if_neg (Ne.symm here)] at joined
    rw [if_neg here]
    exact exposed_kept joined

theorem exposed_of_spared
    (spared : ∀ node, after.nodes.lookup addr = some node → node.disableReason = some .manual) :
    after.exposed threshold addr = false := by
  rw [LoadBalancer.exposed]
  cases found : after.nodes.lookup addr with
  | none => rfl
  | some node => simp [Node.exposed, spared node found]

end

theorem Node.healthChecked_exposed (config : CircuitBreakerConfig) (status : HealthCheckStatus)
    (checkedAt : Instant) (now : SystemTime) (threshold : UInt32) (node : Node) :
    (node.healthChecked config status checkedAt now).exposed threshold =
      (decide (node.disableReason ≠ some .manual) &&
        match status with
        | .healthy => decide (1 < threshold)
        | .unhealthy _ => !decide (threshold ≤ node.consecutiveFailures + 1 + 1)) := by
  have reason := (node.healthChecked_membership config status checkedAt now).2.2
  rw [Node.exposed, reason]
  cases status with
  | healthy =>
      have next : (0 : UInt32) + 1 = 1 := by decide
      rw [node.healthChecked_healthy config checkedAt now, next]
      simp [← UInt32.not_le]
  | unhealthy message => rw [node.healthChecked_failures config message checkedAt now]

theorem checked_exposed (lb : LoadBalancer) (target : String) (status : HealthCheckStatus)
    (checkedAt : Instant) (now : SystemTime) (threshold : UInt32) (addr : String) :
    (lb.updateHealthStatus target status checkedAt now).exposed threshold addr =
      lb.outdates threshold addr (.call (.updateHealthStatus target status checkedAt now))
        (lb.exposed threshold addr) := by
  have found := LoadBalancer.updateHealthStatus_lookup lb target addr status checkedAt now
  by_cases here : addr = target
  · subst here
    rw [if_pos rfl] at found
    simp only [LoadBalancer.outdates, true_and]
    rw [LoadBalancer.exposed, found]
    cases present : lb.nodes.lookup addr with
    | none => simp [LoadBalancer.exposed, present]
    | some node =>
        rw [Option.map_some, Option.any_some, node.healthChecked_exposed]
        by_cases manual : node.disableReason = some .manual
        · simp [LoadBalancer.exposed, present, Node.exposed, manual]
        · simp only [manual, ne_eq, not_false_eq_true, if_true, decide_true, Bool.true_and]
  · rw [if_neg here] at found
    rw [exposed_kept found, LoadBalancer.outdates]
    split
    next => rw [if_neg fun same => here same.1.symm]
    next => rfl

theorem refused_exposed {lb : LoadBalancer} {operation : Operation} (why : lb.Refused operation)
    (threshold : UInt32) (addr : String) :
    lb.exposed threshold addr =
      lb.outdates threshold addr (.call operation) (lb.exposed threshold addr) := by
  cases operation with
  | disableNode other =>
      simp only [LoadBalancer.outdates]
      split
      next same =>
        subst same
        exact exposed_of_spared fun node found => absurd (why.symm.trans found) nofun
      next => rfl
  | enableNode other =>
      have absent : other ∉ lb.nodes := AList.lookup_eq_none.mp why
      simp only [LoadBalancer.outdates]
      rw [if_neg]
      rintro ⟨rfl, present⟩
      exact absent present
  | autoDisableNode other => rfl
  | autoEnableNode other =>
      simp only [LoadBalancer.outdates]
      rw [if_neg]
      rintro ⟨rfl, recovered⟩
      obtain ⟨node, found, reason⟩ := (Option.any_eq_true ..).mp recovered
      exact why node found (of_decide_eq_true reason)
  | _ => cases why

theorem perform_exposed (lb : LoadBalancer) (operation : Operation) (threshold : UInt32)
    (addr : String) :
    (lb.perform operation).1.exposed threshold addr =
      lb.outdates threshold addr (.call operation) (lb.exposed threshold addr) := by
  have change := lb.perform_change operation
  generalize (lb.perform operation).1 = after, (lb.perform operation).2 = reply at change
  cases change with
  | select now =>
      obtain ⟨update, which, found⟩ := lb.afterSelection_lookup now addr
      refine exposed_update update (fun node => ?_) found
      rcases which with rfl | rfl <;> rfl
  | check target status checkedAt now =>
      exact checked_exposed lb target status checkedAt now threshold addr
  | timeouts now =>
      refine exposed_update _ (fun node => ?_) (lb.checkCircuitTimeouts_lookup addr now)
      rcases node.timeoutChecked_cases lb.circuitConfig (now addr) with same | moved
      · rw [same]
      · rw [moved]
        rfl
  | refused operation why => exact refused_exposed why threshold addr
  | disabled target node found =>
      have left := LoadBalancer.leaveRotation_lookup lb target addr .manual
      by_cases here : addr = target
      · subst here
        rw [if_pos rfl, found] at left
        simp only [LoadBalancer.outdates, if_true]
        refine exposed_of_spared fun other there => ?_
        obtain rfl := Option.some.inj (left.symm.trans there)
        rfl
      · rw [if_neg here] at left
        simp only [LoadBalancer.outdates, if_neg (Ne.symm here), exposed_kept left]
  | autoDisabled target node found free =>
      have left := LoadBalancer.leaveRotation_lookup lb target addr .healthCheck
      by_cases here : addr = target
      · subst here
        rw [if_pos rfl, found] at left
        simp [LoadBalancer.exposed, LoadBalancer.outdates, left, found, Node.exposed,
          Node.disabledFor, free]
      · rw [if_neg here] at left
        exact exposed_kept left
  | enabled target node found =>
      have present : target ∈ lb.nodes := AList.lookup_isSome.mp (by simp [found])
      refine (joined_exposed found).trans (if_congr ?_ rfl rfl)
      exact ⟨fun here => ⟨here, here ▸ present⟩, And.left⟩
  | autoEnabled target node found recovered =>
      refine (joined_exposed found).trans (if_congr ?_ rfl rfl)
      refine ⟨fun here => ⟨here, ?_⟩, And.left⟩
      rw [← here, found]
      exact decide_eq_true recovered
  | known target present =>
      simp only [LoadBalancer.outdates]
      rw [if_neg]
      rintro ⟨rfl, absent⟩
      exact absent present
  | added target absent =>
      by_cases here : addr = target
      · subst here
        simp only [LoadBalancer.outdates, absent, not_false_eq_true, and_self, if_true]
        exact exposed_of_fresh (AList.lookup_insert _) rfl rfl
      · simp only [LoadBalancer.outdates, Ne.symm here, false_and, if_false]
        exact exposed_kept (AList.lookup_insert_ne here)
  | removed target =>
      have removed := LoadBalancer.removeNode_lookup lb target addr
      by_cases here : addr = target
      · subst here
        rw [if_pos rfl] at removed
        simp only [LoadBalancer.outdates, if_true]
        exact exposed_of_spared fun node found =>
          absurd (removed.symm.trans found) (Option.some_ne_none node).symm
      · rw [if_neg here] at removed
        simp only [LoadBalancer.outdates, if_neg (Ne.symm here), exposed_kept removed]

theorem registerNode_exposed (lb : LoadBalancer) (nodeUrl : String) (threshold : UInt32)
    (addr : String) :
    (registerNode lb nodeUrl).1.exposed threshold addr =
      lb.outdates threshold addr (.registerNode nodeUrl) (lb.exposed threshold addr) := by
  cases valid : isHttpUrl nodeUrl with
  | false => simp [registerNode, LoadBalancer.outdates, valid]
  | true =>
      have added := perform_exposed lb (.addNode nodeUrl) threshold addr
      have enabled := perform_exposed (lb.addNode nodeUrl) (.enableNode nodeUrl) threshold addr
      have member : nodeUrl ∈ (lb.addNode nodeUrl).nodes := by
        unfold LoadBalancer.addNode
        split
        next present => exact present
        next => exact (AList.mem_insert _).mpr (.inl rfl)
      simp only [registerNode, valid, Bool.not_true, Bool.false_eq_true, if_false]
      refine enabled.trans ?_
      by_cases here : nodeUrl = addr
      · subst here
        simp [LoadBalancer.outdates, member, valid]
      · rw [show (lb.addNode nodeUrl).exposed threshold addr = _ from added]
        simp [LoadBalancer.outdates, here]

namespace Orchestrator

def exposed (state : Orchestrator) : Bool :=
  match state.checker with
  | .applying update _ =>
      update.shouldDisable &&
        state.loadBalancer.exposed state.healthConfig.failureThreshold update.nodeAddr
  | _ => false

structure Recorded (outdated : Bool) (state : Orchestrator) : Prop where
  exposed : outdated = state.exposed
  disabling : ∀ update pending, state.checker = .applying update pending →
    update.shouldDisable = true → update.Disabling

theorem Recorded.idle {outdated : Bool} {state : Orchestrator}
    (idle : ∀ update pending, state.checker ≠ .applying update pending)
    (fresh : outdated = false) : Recorded outdated state := by
  refine ⟨?_, fun update pending holds => absurd holds (idle update pending)⟩
  subst fresh
  rw [Orchestrator.exposed]
  split
  next update pending holds => exact absurd holds (idle update pending)
  next => rfl

theorem Recorded.ignored {outdated : Bool} {state : Orchestrator} {input : OrchestratorStep}
    (same : state.step input = (state, .silent)) (kept : outdated = state.exposed)
    (disabling : ∀ update pending, state.checker = .applying update pending →
      update.shouldDisable = true → update.Disabling) :
    Recorded outdated (state.step input).1 := by
  rw [same]
  exact ⟨kept, disabling⟩

theorem step_recorded (state : Orchestrator) (input : OrchestratorStep) (outdated : Bool)
    (recorded : Recorded outdated state) :
    Recorded (state.outdated input outdated) (state.step input).1 := by
  obtain ⟨rfl, disabling⟩ := recorded
  cases input with
  | call operation =>
      refine ⟨?_, disabling⟩
      simp only [Orchestrator.outdated, exposed, step]
      split
      next update _ holds =>
        simp only [perform_exposed]
        cases update.shouldDisable <;> rfl
      next => rfl
  | registerNode nodeUrl =>
      refine ⟨?_, disabling⟩
      simp only [Orchestrator.outdated, exposed, step]
      split
      next update _ holds =>
        simp only [registerNode_exposed]
        cases update.shouldDisable <;> rfl
      next => rfl
  | checkTimeouts now =>
      cases holds : state.checker with
      | timeoutsChecked =>
          exact .idle (by simp [step, holds]) (by simp [Orchestrator.outdated, holds])
      | processing pending =>
          refine .idle ?_ (by simp [Orchestrator.outdated, holds])
          cases pending <;> simp [step, holds]
      | applying update pending =>
          exact .ignored (by simp [step, holds])
            (by simp [Orchestrator.outdated, exposed, holds, LoadBalancer.outdates]) disabling
  | snapshot order =>
      cases holds : state.checker with
      | timeoutsChecked =>
          refine .idle ?_ (by simp [Orchestrator.outdated, holds])
          simp only [step, holds]
          split <;> simp [holds]
      | processing pending =>
          exact .idle (by simp [step, holds]) (by simp [Orchestrator.outdated, holds])
      | applying update pending =>
          exact .ignored (by simp [step, holds])
            (by simp [Orchestrator.outdated, exposed, holds, LoadBalancer.outdates]) disabling
  | processResult result =>
      cases holds : state.checker with
      | timeoutsChecked =>
          exact .idle (by simp [step, holds]) (by simp [Orchestrator.outdated, holds])
      | processing pending =>
          cases pending with
          | nil => exact .idle (by simp [step, holds]) (by simp [Orchestrator.outdated, holds])
          | cons node rest =>
              have computed := processHealthResult_disabling state.healthConfig
                state.loadBalancer node result
              simp only [step, holds, Orchestrator.outdated]
              refine ⟨?_, ?_⟩
              · simp only [exposed]
                cases decided : (processHealthResult state.healthConfig state.loadBalancer node
                    result).shouldDisable with
                | false => rfl
                | true => rw [(computed decided).2, Bool.and_false]
              · rintro update pending ⟨⟩ decided
                exact (computed decided).1
      | applying update pending =>
          exact .ignored (by simp [step, holds])
            (by simp [Orchestrator.outdated, exposed, holds, LoadBalancer.outdates]) disabling
  | applyUpdate checkedAt now =>
      refine .idle ?_ (by simp only [Orchestrator.outdated]; split <;> rfl)
      simp only [step]
      split
      next => simp
      next other => exact other

theorem timely_iff_justified (state : Orchestrator) (input : OrchestratorStep) (outdated : Bool)
    (recorded : Recorded outdated state) :
    Timely outdated input ↔ JustifiedDisables state input := by
  cases input with
  | call | registerNode => exact iff_of_true trivial fun event logged => by cases logged
  | checkTimeouts | snapshot | processResult =>
      refine iff_of_true trivial ?_
      unfold JustifiedDisables
      simp only [step]
      repeat' split
      all_goals exact fun event logged => by cases logged
  | applyUpdate checkedAt now =>
      show outdated = false ↔ _
      rw [recorded.exposed, exposed, JustifiedDisables]
      cases holds : state.checker with
      | timeoutsChecked | processing =>
          refine iff_of_true rfl ?_
          simp only [step, holds]
          exact fun event logged => by cases logged
      | applying update pending =>
          simp only [step, holds, OrchestratorReply.events]
          cases decided : update.shouldDisable with
          | false => exact iff_of_true rfl (undecided_events _ _ _ update checkedAt now decided)
          | true =>
              rw [Bool.true_and]
              exact ((recorded.disabling update pending holds decided).justified_iff decided
                checkedAt now).symm

/-- The health checker disables a node for too few failures exactly where it applies a decision
that callers have outdated since it was made. -/
theorem disables_justified (nodeAddrs : List String) (circuitConfig : CircuitBreakerConfig)
    (healthConfig : HealthCheckConfig) (steps : List OrchestratorStep) :
    machine.EachRecorded outdated Timely
        (start (.withConfig nodeAddrs circuitConfig) healthConfig) steps false ↔
      machine.EachStep JustifiedDisables
        (start (.withConfig nodeAddrs circuitConfig) healthConfig) steps :=
  machine.eachRecorded_iff outdated Recorded Timely JustifiedDisables step_recorded
    timely_iff_justified _ steps false ⟨rfl, fun update pending holds => by cases holds⟩

theorem disables_justified_witness :
    let first := start (.withConfig ["http://a", "http://b"] .default) ⟨2⟩
    let round (actions : List OrchestratorStep) : List OrchestratorStep :=
      [.checkTimeouts fun _ => 0, .snapshot ["http://a", "http://b"],
        .processResult (.error (.transport "refused"))] ++ actions ++
        [.applyUpdate 1 1, .processResult (.ok ()), .applyUpdate 2 2]
    machine.EachStep JustifiedDisables first
      -- Whoever enables the node before its second failure is applied disables it again.
      (round [.call (.enableNode "http://b")] ++
        round [.call (.enableNode "http://a"), .call (.disableNode "http://a")]) :=
  (disables_justified ["http://a", "http://b"] .default ⟨2⟩ _).mp (by decide)

theorem stale_disable :
    let first := start (.withConfig ["http://a"] .default) ⟨2⟩
    let fails : List OrchestratorStep :=
      [.checkTimeouts fun _ => 0, .snapshot ["http://a"],
        .processResult (.error (.transport "refused"))]
    -- The actions fall between the second decision and its application.
    let interrupted (actions : List OrchestratorStep) : List OrchestratorStep :=
      fails ++ [.applyUpdate 1 1] ++ fails ++ actions ++ [.applyUpdate 2 2]
    ∀ actions ∈ [[OrchestratorStep.call (.enableNode "http://a")], [.registerNode "http://a"],
        [.call (.removeNode "http://a"), .call (.addNode "http://a")]],
      ¬ machine.EachStep JustifiedDisables first (interrupted actions) ∧
      ((machine.outputs first (interrupted actions)).getLast?.map OrchestratorReply.events) =
        some [.disabled "http://a" 1 "Transport error: refused"] := by
  decide

end Orchestrator

end MadRpc
