import Mathlib.Data.List.Induction
import MadRpc.Orchestrator.Circuit
import MadRpc.Orchestrator.Fairness
import MadRpc.Orchestrator.Orchestrator

set_option autoImplicit false

namespace MadRpc

def HealthRound.fails (round : HealthRound) (addr : String) : Bool :=
  match round.result addr with
  | .ok () => false
  | .error _ => true

def trailingFailures (rounds : List HealthRound) (addr : String) : Nat :=
  (rounds.reverse.takeWhile (·.fails addr)).length

theorem trailingFailures_append (rounds : List HealthRound) (round : HealthRound)
    (addr : String) :
    trailingFailures (rounds ++ [round]) addr =
      if round.fails addr then trailingFailures rounds addr + 1 else 0 := by
  cases failed : round.fails addr <;> simp [trailingFailures, failed]

theorem trailingFailures_le (rounds : List HealthRound) (addr : String) :
    trailingFailures rounds addr ≤ rounds.length := by
  simpa [trailingFailures] using
    (List.takeWhile_sublist (l := rounds.reverse) (fun round => round.fails addr)).length_le

/-! ## One node in one round -/

def Node.healthRound (config : HealthCheckConfig) (round : HealthRound) (lb : LoadBalancer)
    (node : Node) : Node :=
  node.healthApplied lb.circuitConfig
    (processHealthResult config lb node (round.result node.addr))
    (round.checkedAt node.addr) (round.now node.addr)

/-- A node that failed its last `count` rounds, under the trailing-failure rule. -/
structure Node.Trails (threshold count : Nat) (node : Node) : Prop where
  counted : node.consecutiveFailures.toNat = count
  enabled : node.enabled = true ↔ count < threshold
  reason : node.disableReason = if count < threshold then none else some .healthCheck

theorem processHealthResult_congr (config : HealthCheckConfig) (lb other : LoadBalancer)
    (node : Node) (result : Except MadrpcError Unit)
    (same : other.nodes.lookup node.addr = lb.nodes.lookup node.addr) :
    processHealthResult config other node result = processHealthResult config lb node result := by
  have counted : other.consecutiveFailures node.addr = lb.consecutiveFailures node.addr := by
    simp [LoadBalancer.consecutiveFailures, same]
  unfold processHealthResult
  rw [counted]

theorem Node.timeoutChecked_trails (config : CircuitBreakerConfig) (now : SystemTime)
    (threshold count : Nat) (node : Node) (trails : node.Trails threshold count) :
    (node.timeoutChecked config now).1.Trails threshold count := by
  rcases node.timeoutChecked_cases config now with same | moved
  · rwa [same]
  · rw [moved]
    exact ⟨trails.counted, trails.enabled, trails.reason⟩

theorem Node.healthRound_recovered (config : HealthCheckConfig) (round : HealthRound)
    (lb : LoadBalancer) (node : Node) (count : Nat) (positive : 1 ≤ config.failureThreshold)
    (passed : round.fails node.addr = false)
    (trails : node.Trails config.failureThreshold.toNat count) :
    (node.healthRound config round lb).Trails config.failureThreshold.toNat 0 := by
  obtain ⟨_, enabled, reason⟩ := trails
  have first : 0 < config.failureThreshold.toNat := positive
  have result : round.result node.addr = .ok () := by
    unfold HealthRound.fails at passed
    split at passed
    next result => exact result
    next => cases passed
  obtain ⟨_, sameEnabled, sameReason⟩ := node.healthChecked_membership lb.circuitConfig .healthy
    (round.checkedAt node.addr) (round.now node.addr)
  have reset := node.healthChecked_healthy lb.circuitConfig (round.checkedAt node.addr)
    (round.now node.addr)
  -- Only a node that an earlier round disabled is enabled again.
  by_cases below : count < config.failureThreshold.toNat
  · have on := enabled.mpr below
    rw [if_pos below] at reason
    simp only [healthRound, healthApplied, healthRecorded, processHealthResult, result, on,
      reason]
    exact ⟨by simp [reset], by simp [sameEnabled, on, first], by simp [sameReason, reason, first]⟩
  · have off : node.enabled = false := by simpa [below] using enabled
    rw [if_neg below] at reason
    simp only [healthRound, healthApplied, healthRecorded, processHealthResult, result, off,
      reason]
    simp only [autoEnabled, sameReason, reason]
    exact ⟨rfl, by simp [reenabled, first], by simp [reenabled, first]⟩

theorem Node.healthRound_failed (config : HealthCheckConfig) (round : HealthRound)
    (lb : LoadBalancer) (node : Node) (count : Nat)
    (found : lb.nodes.lookup node.addr = some node) (few : count + 1 < 2 ^ 32)
    (failed : round.fails node.addr = true)
    (trails : node.Trails config.failureThreshold.toNat count) :
    (node.healthRound config round lb).Trails config.failureThreshold.toNat (count + 1) := by
  obtain ⟨counted, enabled, reason⟩ := trails
  obtain ⟨error, result⟩ : ∃ error, round.result node.addr = .error error := by
    unfold HealthRound.fails at failed
    split at failed
    next => cases failed
    next error result => exact ⟨error, result⟩
  have read : lb.consecutiveFailures node.addr = node.consecutiveFailures := by
    simp [LoadBalancer.consecutiveFailures, found]
  have next : (node.consecutiveFailures + 1).toNat = count + 1 := by
    rw [UInt32.toNat_add, counted]
    exact Nat.mod_eq_of_lt few
  obtain ⟨_, sameEnabled, sameReason⟩ := node.healthChecked_membership lb.circuitConfig
    (.unhealthy error.toString) (round.checkedAt node.addr) (round.now node.addr)
  have grown := node.healthChecked_failures lb.circuitConfig error.toString
    (round.checkedAt node.addr) (round.now node.addr)
  have reached : config.failureThreshold ≤ node.consecutiveFailures + 1 ↔
      ¬ count + 1 < config.failureThreshold.toNat := by
    rw [UInt32.le_iff_toNat_le, next, Nat.not_lt]
  by_cases below : count < config.failureThreshold.toNat
  · have on := enabled.mpr below
    rw [if_pos below] at reason
    simp only [healthRound, healthApplied, healthRecorded, processHealthResult, result, read, on,
      reason]
    -- The failure that reaches the threshold disables the node, the ones before only count.
    by_cases still : count + 1 < config.failureThreshold.toNat
    · simp only [reached, still]
      exact ⟨by simp [grown, next], by simp [sameEnabled, on, still],
        by simp [sameReason, reason, still]⟩
    · simp only [reached, still]
      exact ⟨by simp [autoDisabled, sameReason, reason, disabledFor, grown, next],
        by simp [autoDisabled, sameReason, reason, disabledFor, still],
        by simp [autoDisabled, sameReason, reason, disabledFor, still]⟩
  · have off : node.enabled = false := by simpa [below] using enabled
    have still : ¬ count + 1 < config.failureThreshold.toNat := by omega
    rw [if_neg below] at reason
    simp only [healthRound, healthApplied, healthRecorded, processHealthResult, result, read, off]
    exact ⟨by simp [grown, next], by simp [sameEnabled, off, still],
      by simp [sameReason, reason, still]⟩

theorem applyHealthUpdate_circuitConfig (lb : LoadBalancer) (update : HealthCheckUpdate)
    (checkedAt : Instant) (now : SystemTime) :
    (applyHealthUpdate lb update checkedAt now).1.circuitConfig = lb.circuitConfig := by
  rw [applyHealthUpdate_correct, LoadBalancer.run_circuitConfig]

theorem processHealthResult_nodeAddr (config : HealthCheckConfig) (lb : LoadBalancer)
    (node : Node) (result : Except MadrpcError Unit) :
    (processHealthResult config lb node result).nodeAddr = node.addr := by
  cases result <;> rfl

theorem Node.healthRound_congr (config : HealthCheckConfig) (round : HealthRound)
    (lb other : LoadBalancer) (node : Node) (settings : other.circuitConfig = lb.circuitConfig)
    (same : other.nodes.lookup node.addr = lb.nodes.lookup node.addr) :
    node.healthRound config round other = node.healthRound config round lb := by
  rw [healthRound, healthRound, settings, processHealthResult_congr config lb other node _ same]

theorem Node.healthRound_order (config : HealthCheckConfig) (round : HealthRound)
    (order : List String) (lb : LoadBalancer) (node : Node) :
    node.healthRound config { round with order := order } lb =
      node.healthRound config round lb := rfl

theorem processResults_lookup (config : HealthCheckConfig) (round : HealthRound)
    (lb : LoadBalancer) (nodes : List Node) (distinct : (nodes.map Node.addr).Nodup)
    (current : ∀ node ∈ nodes, lb.nodes.lookup node.addr = some node) :
    (∀ node ∈ nodes, (processResults config round lb nodes).nodes.lookup node.addr =
      some (node.healthRound config round lb)) ∧
    ∀ addr, addr ∉ nodes.map Node.addr →
      (processResults config round lb nodes).nodes.lookup addr = lb.nodes.lookup addr := by
  -- Distinct addresses: each node is still the one of the snapshot when its turn comes.
  induction nodes generalizing lb with
  | nil =>
      constructor
      · intro node member
        cases member
      · intro addr _
        rfl
  | cons node rest ih =>
      obtain ⟨fresh, distinct⟩ := List.nodup_cons.mp distinct
      obtain ⟨here, others⟩ := List.forall_mem_cons.mp current
      let next := (applyHealthUpdate lb
        (processHealthResult config lb node (round.result node.addr))
        (round.checkedAt node.addr) (round.now node.addr)).1
      have loop : processResults config round lb (node :: rest) =
        processResults config round next rest := rfl
      have settings : next.circuitConfig = lb.circuitConfig :=
        applyHealthUpdate_circuitConfig _ _ _ _
      have head : next.nodes.lookup node.addr = some (node.healthRound config round lb) := by
        rw [applyHealthUpdate_lookup, processHealthResult_nodeAddr, if_pos rfl, here]
        rfl
      have tail (addr : String) (other : addr ≠ node.addr) :
          next.nodes.lookup addr = lb.nodes.lookup addr := by
        rw [applyHealthUpdate_lookup, processHealthResult_nodeAddr, if_neg other]
      have apart (other : Node) (member : other ∈ rest) : other.addr ≠ node.addr := fun same =>
        fresh (same ▸ List.mem_map_of_mem member)
      obtain ⟨rewritten, unchanged⟩ := ih next distinct fun other member =>
        (tail other.addr (apart other member)).trans (others other member)
      rw [loop]
      constructor
      · intro other member
        rcases List.mem_cons.mp member with rfl | member
        · rw [unchanged other.addr fresh, head]
        · rw [rewritten other member, Node.healthRound_congr config round lb next other settings
            (tail other.addr (apart other member))]
      · intro addr absent
        obtain ⟨different, absent⟩ : addr ≠ node.addr ∧ addr ∉ rest.map Node.addr := by
          simpa using absent
        rw [unchanged addr absent, tail addr different]

structure Pool (nodeAddrs : List String) (lb : LoadBalancer) : Prop extends lb.Wellformed where
  unique : nodeAddrs.Nodup
  members : ∀ addr, addr ∈ lb.nodes ↔ addr ∈ nodeAddrs

theorem allNodes_addrs {nodeAddrs order : List String} {lb : LoadBalancer}
    (pool : Pool nodeAddrs lb) (listed : ∀ addr ∈ order, addr ∈ nodeAddrs) :
    (lb.allNodes order).map Node.addr = order := by
  induction order with
  | nil => rfl
  | cons addr rest ih =>
      obtain ⟨here, others⟩ := List.forall_mem_cons.mp listed
      obtain ⟨node, found⟩ := Option.isSome_iff_exists.mp
        (AList.lookup_isSome.mpr ((pool.members addr).mpr here))
      have tail := ih others
      simp only [LoadBalancer.allNodes, List.filterMap_cons, found, List.map_cons,
        pool.keyed addr node found] at tail ⊢
      rw [tail]

theorem allNodes_current {nodeAddrs order : List String} {lb : LoadBalancer}
    (pool : Pool nodeAddrs lb) :
    ∀ node ∈ lb.allNodes order, lb.nodes.lookup node.addr = some node := by
  intro node member
  obtain ⟨addr, _, found⟩ := List.mem_filterMap.mp member
  rw [pool.keyed addr node found, found]

theorem Pool.timeoutsChecked {nodeAddrs : List String} {lb : LoadBalancer}
    (pool : Pool nodeAddrs lb) (now : String → SystemTime) :
    Pool nodeAddrs (lb.checkCircuitTimeouts now).1 := by
  refine ⟨LoadBalancer.perform_wellformed lb (.checkCircuitTimeouts now) pool.toWellformed,
    pool.unique, fun addr => ?_⟩
  rw [← pool.members addr, ← AList.lookup_isSome, ← AList.lookup_isSome]
  simp

theorem checkAllNodes_lookup {nodeAddrs : List String} {lb : LoadBalancer}
    (config : HealthCheckConfig) (round : HealthRound) (pool : Pool nodeAddrs lb)
    (complete : round.order.Perm nodeAddrs) (addr : String) :
    (checkAllNodes config lb round).nodes.lookup addr = (lb.nodes.lookup addr).map fun node =>
      (node.timeoutChecked lb.circuitConfig (round.timeoutsAt addr)).1.healthRound config round
        (lb.checkCircuitTimeouts round.timeoutsAt).1 := by
  have timed := pool.timeoutsChecked round.timeoutsAt
  have addrs := allNodes_addrs timed fun addr member => complete.mem_iff.mp member
  obtain ⟨rewritten, unchanged⟩ := processResults_lookup config round
    (lb.checkCircuitTimeouts round.timeoutsAt).1
    ((lb.checkCircuitTimeouts round.timeoutsAt).1.allNodes round.order)
    (by rw [addrs]; exact complete.nodup_iff.mpr pool.unique) (allNodes_current timed)
  have moved : (lb.checkCircuitTimeouts round.timeoutsAt).1.nodes.lookup addr =
      (lb.nodes.lookup addr).map fun node =>
        (node.timeoutChecked lb.circuitConfig (round.timeoutsAt addr)).1 := by
    simp
  rw [checkAllNodes]
  cases found : lb.nodes.lookup addr with
  | none =>
      have absent : addr ∉ round.order := by
        rw [complete.mem_iff, ← pool.members addr]
        exact AList.lookup_eq_none.mp found
      rw [unchanged addr (by rwa [addrs]), moved, found]
      rfl
  | some node =>
      rw [found, Option.map_some] at moved
      have listed : addr ∈ round.order := by
        rw [complete.mem_iff, ← pool.members addr]
        exact AList.lookup_isSome.mp (by simp [found])
      have same := rewritten _ (List.mem_filterMap.mpr ⟨addr, listed, moved⟩)
      rwa [timed.keyed addr _ moved] at same

theorem processResults_operations (config : HealthCheckConfig) (round : HealthRound)
    (lb : LoadBalancer) (nodes : List Node) :
    ∃ operations, processResults config round lb nodes =
      LoadBalancer.machine.run lb operations := by
  induction nodes generalizing lb with
  | nil => exact ⟨[], rfl⟩
  | cons node rest ih =>
      let update := processHealthResult config lb node (round.result node.addr)
      obtain ⟨operations, later⟩ :=
        ih (applyHealthUpdate lb update (round.checkedAt node.addr) (round.now node.addr)).1
      refine ⟨update.operations (round.checkedAt node.addr) (round.now node.addr) ++ operations, ?_⟩
      rw [LoadBalancer.machine.run_append, ← applyHealthUpdate_correct, ← later]
      rfl

theorem Pool.checkAllNodes {nodeAddrs : List String} {lb : LoadBalancer}
    (config : HealthCheckConfig) (round : HealthRound) (pool : Pool nodeAddrs lb)
    (complete : round.order.Perm nodeAddrs) : Pool nodeAddrs (checkAllNodes config lb round) := by
  have timed := pool.timeoutsChecked round.timeoutsAt
  obtain ⟨operations, same⟩ := processResults_operations config round
    (lb.checkCircuitTimeouts round.timeoutsAt).1
    ((lb.checkCircuitTimeouts round.timeoutsAt).1.allNodes round.order)
  have wellformed : (MadRpc.checkAllNodes config lb round).Wellformed := by
    rw [MadRpc.checkAllNodes, same]
    exact LoadBalancer.machine.run_invariant _ LoadBalancer.perform_wellformed _ _
      timed.toWellformed
  refine ⟨wellformed, pool.unique, fun addr => ?_⟩
  rw [← pool.members addr, ← AList.lookup_isSome, ← AList.lookup_isSome,
    checkAllNodes_lookup config round pool complete, Option.isSome_map]

theorem checkAllNodes_circuitConfig (config : HealthCheckConfig) (lb : LoadBalancer)
    (round : HealthRound) :
    (checkAllNodes config lb round).circuitConfig = lb.circuitConfig := by
  obtain ⟨operations, same⟩ := processResults_operations config round
    (lb.checkCircuitTimeouts round.timeoutsAt).1
    ((lb.checkCircuitTimeouts round.timeoutsAt).1.allNodes round.order)
  rw [checkAllNodes, same, LoadBalancer.run_circuitConfig]
  rfl

theorem processResults_run (config : HealthCheckConfig) (round : HealthRound)
    (lb : LoadBalancer) (nodes : List Node) :
    Orchestrator.machine.run ⟨lb, config, .processing nodes⟩ (nodes.flatMap fun node =>
        [.processResult (round.result node.addr),
          .applyUpdate (round.checkedAt node.addr) (round.now node.addr)]) =
      ⟨processResults config round lb nodes, config, .processing []⟩ := by
  induction nodes generalizing lb with
  | nil => rfl
  | cons node rest ih =>
      rw [List.flatMap_cons, Machine.run_append]
      exact ih _

def HealthRound.steps (round : HealthRound) : List OrchestratorStep :=
  [.checkTimeouts round.timeoutsAt, .snapshot round.order] ++ round.order.flatMap fun addr =>
    [.processResult (round.result addr), .applyUpdate (round.checkedAt addr) (round.now addr)]

theorem checkAllNodes_run {nodeAddrs : List String} {lb : LoadBalancer}
    (config : HealthCheckConfig) (round : HealthRound) (pool : Pool nodeAddrs lb)
    (complete : round.order.Perm nodeAddrs) :
    Orchestrator.machine.run (Orchestrator.start lb config) round.steps =
      Orchestrator.start (checkAllNodes config lb round) config := by
  have timed := pool.timeoutsChecked round.timeoutsAt
  have addrs := allNodes_addrs timed fun addr member => complete.mem_iff.mp member
  have whole : round.order.Perm (lb.checkCircuitTimeouts round.timeoutsAt).1.nodes.keys := by
    rw [List.perm_ext_iff_of_nodup (complete.nodup_iff.mpr pool.unique) (AList.keys_nodup _)]
    intro addr
    rw [complete.mem_iff, ← timed.members addr, AList.mem_keys]
  have snapshot : Orchestrator.machine.run (Orchestrator.start lb config)
      [.checkTimeouts round.timeoutsAt, .snapshot round.order] =
      ⟨(lb.checkCircuitTimeouts round.timeoutsAt).1, config,
        .processing ((lb.checkCircuitTimeouts round.timeoutsAt).1.allNodes round.order)⟩ := by
    simp [Orchestrator.start, Orchestrator.step, whole]
  have loop := processResults_run config round (lb.checkCircuitTimeouts round.timeoutsAt).1
    ((lb.checkCircuitTimeouts round.timeoutsAt).1.allNodes round.order)
  rw [← List.flatMap_map Node.addr (fun addr => [OrchestratorStep.processResult
    (round.result addr), .applyUpdate (round.checkedAt addr) (round.now addr)]), addrs] at loop
  rw [HealthRound.steps, Machine.run_append, snapshot, loop]
  rfl

structure LoadBalancer.Agree (lb other : LoadBalancer) : Prop where
  settings : other.circuitConfig = lb.circuitConfig
  nodes : ∀ addr, other.nodes.lookup addr = lb.nodes.lookup addr

theorem LoadBalancer.Agree.rotation {lb other : LoadBalancer} (agree : lb.Agree other)
    (wellformed : lb.Wellformed) (otherWellformed : other.Wellformed) :
    other.enabledNodes.Perm lb.enabledNodes := by
  rw [List.perm_ext_iff_of_nodup otherWellformed.distinct wellformed.distinct]
  intro addr
  rw [otherWellformed.rotation addr, wellformed.rotation addr, agree.nodes addr]

theorem LoadBalancer.Agree.checkAllNodes {nodeAddrs : List String} {lb other : LoadBalancer}
    (agree : lb.Agree other) (config : HealthCheckConfig) (round : HealthRound)
    (order : List String) (pool : Pool nodeAddrs lb) (otherPool : Pool nodeAddrs other)
    (complete : round.order.Perm nodeAddrs) (otherComplete : order.Perm nodeAddrs) :
    (checkAllNodes config lb round).Agree
      (checkAllNodes config other { round with order := order }) := by
  refine ⟨?_, fun addr => ?_⟩
  · rw [checkAllNodes_circuitConfig, checkAllNodes_circuitConfig, agree.settings]
  · rw [checkAllNodes_lookup config round pool complete,
      checkAllNodes_lookup config { round with order := order } otherPool otherComplete,
      agree.nodes, agree.settings]
    cases found : lb.nodes.lookup addr with
    | none => simp only [Option.map_none]
    | some node =>
        simp only [Option.map_some, Node.healthRound_order]
        rw [Node.healthRound_congr config round (lb.checkCircuitTimeouts round.timeoutsAt).1
          (other.checkCircuitTimeouts round.timeoutsAt).1 _ agree.settings]
        simp only [LoadBalancer.checkCircuitTimeouts_lookup, agree.nodes, agree.settings]

theorem rounds_agree {nodeAddrs : List String} (config : HealthCheckConfig)
    (rounds : List HealthRound) (orders : List (List String)) (lb other : LoadBalancer)
    (agree : lb.Agree other) (pool : Pool nodeAddrs lb) (otherPool : Pool nodeAddrs other)
    (same : orders.length = rounds.length)
    (complete : ∀ round ∈ rounds, round.order.Perm nodeAddrs)
    (otherComplete : ∀ order ∈ orders, order.Perm nodeAddrs) :
    let after := rounds.foldl (checkAllNodes config) lb
    let otherAfter := (List.zipWith (fun round order => { round with order := order })
      rounds orders).foldl (checkAllNodes config) other
    after.Agree otherAfter ∧ otherAfter.Wellformed := by
  induction rounds generalizing orders lb other with
  | nil => exact ⟨agree, otherPool.toWellformed⟩
  | cons round rest ih =>
      cases orders with
      | nil => simp at same
      | cons order orders =>
          obtain ⟨first, others⟩ := List.forall_mem_cons.mp complete
          obtain ⟨otherFirst, otherOthers⟩ := List.forall_mem_cons.mp otherComplete
          exact ih orders _ _
            (agree.checkAllNodes config round order pool otherPool first otherFirst)
            (pool.checkAllNodes config round first)
            (otherPool.checkAllNodes config { round with order := order } otherFirst)
            (by simpa using same) others otherOthers

structure Fresh (nodeAddrs : List String) (lb : LoadBalancer) : Prop where
  unique : nodeAddrs.Nodup
  nodes : ∀ addr, lb.nodes.lookup addr =
    if addr ∈ nodeAddrs then some (Node.new addr) else none
  rotation : lb.enabledNodes.Perm nodeAddrs

theorem withConfig_fresh (nodeAddrs : List String) (config : CircuitBreakerConfig)
    (unique : nodeAddrs.Nodup) : Fresh nodeAddrs (.withConfig nodeAddrs config) :=
  ⟨unique, fun addr => by simp [LoadBalancer.withConfig], List.Perm.refl _⟩

theorem Fresh.addNode {nodeAddrs : List String} {lb : LoadBalancer} (fresh : Fresh nodeAddrs lb)
    (addr : String) (absent : addr ∉ nodeAddrs) :
    Fresh (nodeAddrs ++ [addr]) (lb.addNode addr) := by
  have unknown : addr ∉ lb.nodes :=
    AList.lookup_eq_none.mp ((fresh.nodes addr).trans (if_neg absent))
  have inserted : lb.addNode addr = { lb with
      nodes := lb.nodes.insert addr (Node.new addr)
      enabledNodes := lb.enabledNodes ++ [addr] } := if_neg unknown
  rw [inserted]
  refine ⟨?_, fun other => ?_, fresh.rotation.append_right [addr]⟩
  · exact List.nodup_append.mpr ⟨fresh.unique, List.nodup_singleton addr, by
      rintro other member _ (single : _ ∈ [addr]) rfl
      exact absent (List.mem_singleton.mp single ▸ member)⟩
  · by_cases same : other = addr <;> simp [same, fresh.nodes]

theorem Fresh.pool {nodeAddrs : List String} {lb : LoadBalancer} (fresh : Fresh nodeAddrs lb) :
    Pool nodeAddrs lb where
  keyed addr node found := by
    by_cases listed : addr ∈ nodeAddrs
    · obtain rfl : Node.new addr = node := by simpa [fresh.nodes, listed] using found
      rfl
    · simp [fresh.nodes, listed] at found
  rotation addr := by
    by_cases listed : addr ∈ nodeAddrs <;>
      simp [fresh.rotation.mem_iff, fresh.nodes, listed, Node.new]
  reasons addr node found := by
    by_cases listed : addr ∈ nodeAddrs
    · obtain rfl : Node.new addr = node := by simpa [fresh.nodes, listed] using found
      simp [Node.new]
    · simp [fresh.nodes, listed] at found
  distinct := fresh.rotation.nodup_iff.mpr fresh.unique
  unique := fresh.unique
  members addr := by
    rw [← AList.lookup_isSome, fresh.nodes]
    by_cases listed : addr ∈ nodeAddrs <;> simp [listed]

theorem rounds_trail {nodeAddrs : List String} {lb : LoadBalancer} (config : HealthCheckConfig)
    (fresh : Fresh nodeAddrs lb) (positive : 1 ≤ config.failureThreshold)
    (rounds : List HealthRound) (few : rounds.length < 2 ^ 32)
    (complete : ∀ round ∈ rounds, round.order.Perm nodeAddrs) :
    Pool nodeAddrs (rounds.foldl (checkAllNodes config) lb) ∧
    ∀ addr ∈ nodeAddrs, ∃ node,
      (rounds.foldl (checkAllNodes config) lb).nodes.lookup addr = some node ∧
        node.Trails config.failureThreshold.toNat (trailingFailures rounds addr) := by
  -- By the last round, whose outcome the trailing count reads first.
  induction rounds using List.reverseRec with
  | nil =>
      have first : 0 < config.failureThreshold.toNat := positive
      refine ⟨fresh.pool, fun addr listed => ⟨Node.new addr, ?_, ?_⟩⟩
      · simp [fresh.nodes, listed]
      · exact ⟨rfl, by simp [Node.new, trailingFailures, first],
          by simp [Node.new, trailingFailures, first]⟩
  | append_singleton rounds round ih =>
      rw [List.length_append, List.length_singleton] at few
      have whole : round.order.Perm nodeAddrs := complete round (by simp)
      obtain ⟨pool, trail⟩ := ih (by omega) fun earlier member =>
        complete earlier (by simp [member])
      rw [List.foldl_append, List.foldl_cons, List.foldl_nil]
      generalize rounds.foldl (checkAllNodes config) lb = before at pool trail
      refine ⟨pool.checkAllNodes config round whole, fun addr listed => ?_⟩
      obtain ⟨node, found, trails⟩ := trail addr listed
      have timed := node.timeoutChecked_trails before.circuitConfig (round.timeoutsAt addr) _ _
        trails
      have moved : (before.checkCircuitTimeouts round.timeoutsAt).1.nodes.lookup addr =
          some (node.timeoutChecked before.circuitConfig (round.timeoutsAt addr)).1 := by
        simp [found]
      have keyed := (pool.timeoutsChecked round.timeoutsAt).keyed addr _ moved
      have bounded := trailingFailures_le rounds addr
      refine ⟨_, by rw [checkAllNodes_lookup config round pool whole, found]; rfl, ?_⟩
      rw [trailingFailures_append]
      cases failed : round.fails addr with
      | false => exact Node.healthRound_recovered config round _ _ _ positive (by rwa [keyed]) timed
      | true =>
          exact Node.healthRound_failed config round _ _ _ (by rwa [keyed]) (by omega)
            (by rwa [keyed]) timed

theorem trailing_failure_rule (config : HealthCheckConfig) (nodeAddrs : List String)
    (lb : LoadBalancer) (fresh : Fresh nodeAddrs lb) (positive : 1 ≤ config.failureThreshold)
    (rounds : List HealthRound) (few : rounds.length < 2 ^ 32)
    (complete : ∀ round ∈ rounds, round.order.Perm nodeAddrs) :
    let after := rounds.foldl (checkAllNodes config) lb
    (∀ addr ∈ nodeAddrs, ∃ node, after.nodes.lookup addr = some node ∧
      (node.enabled = true ↔ trailingFailures rounds addr < config.failureThreshold.toNat) ∧
      (addr ∈ after.enabledNodes ↔
        trailingFailures rounds addr < config.failureThreshold.toNat)) ∧
    ∀ orders : List (List String), orders.length = rounds.length →
      (∀ order ∈ orders, order.Perm nodeAddrs) →
      let other := (List.zipWith (fun round order => { round with order := order })
        rounds orders).foldl (checkAllNodes config) lb
      (∀ addr, other.nodes.lookup addr = after.nodes.lookup addr) ∧
        other.enabledNodes.Perm after.enabledNodes := by
  obtain ⟨pool, trail⟩ := rounds_trail config fresh positive rounds few complete
  constructor
  · intro addr listed
    obtain ⟨node, found, trails⟩ := trail addr listed
    refine ⟨node, found, trails.enabled, ?_⟩
    rw [pool.rotation addr, found]
    simpa using trails.enabled
  · intro orders same otherComplete
    obtain ⟨agree, wellformed⟩ := rounds_agree config rounds orders lb lb
      ⟨rfl, fun _ => rfl⟩ fresh.pool fresh.pool same complete otherComplete
    exact ⟨agree.nodes, agree.rotation pool.toWellformed wellformed⟩

theorem trailing_failure_rule_witness :
    let round (order : List String) (failing : Bool) : HealthRound :=
      { timeoutsAt := fun _ => 0
        order := order
        result := fun addr =>
          if failing && addr = "http://a" then .error (.transport "refused") else .ok ()
        checkedAt := fun _ => 0
        now := fun _ => 0 }
    -- The first node fails twice and recovers; the second never fails.
    let rounds := [round ["http://a", "http://b"] true, round ["http://b", "http://a"] true,
      round ["http://a", "http://b"] false]
    let lb := LoadBalancer.withConfig ["http://a", "http://b"] .default
    let after := rounds.foldl (checkAllNodes ⟨2⟩) lb
    (∀ addr ∈ ["http://a", "http://b"], ∃ node, after.nodes.lookup addr = some node ∧
      (node.enabled = true ↔ trailingFailures rounds addr < (2 : UInt32).toNat) ∧
      (addr ∈ after.enabledNodes ↔ trailingFailures rounds addr < (2 : UInt32).toNat)) ∧
    ∀ orders : List (List String), orders.length = rounds.length →
      (∀ order ∈ orders, order.Perm ["http://a", "http://b"]) →
      let other := (List.zipWith (fun round order => { round with order := order })
        rounds orders).foldl (checkAllNodes ⟨2⟩) lb
      (∀ addr, other.nodes.lookup addr = after.nodes.lookup addr) ∧
        other.enabledNodes.Perm after.enabledNodes :=
  trailing_failure_rule ⟨2⟩ ["http://a", "http://b"] _ (withConfig_fresh _ _ (by decide))
    (by decide) _ (by decide) (by decide)

end MadRpc
