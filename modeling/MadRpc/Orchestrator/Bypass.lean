import MadRpc.Orchestrator.Fairness

set_option autoImplicit false

namespace MadRpc.LoadBalancer

def enabledCount (lb : LoadBalancer) : Nat := lb.enabledNodes.length

def Serving (addr : String) (lb : LoadBalancer) : Prop :=
  ∃ node, lb.nodes.lookup addr = some node ∧ node.enabled = true ∧ node.circuitState ≠ .opened

instance (addr : String) : DecidablePred (Serving addr) := fun lb =>
  decidable_of_iff ((lb.nodes.lookup addr).any fun node =>
      node.enabled && decide (node.circuitState ≠ .opened)) <| by
    simp [Serving, Option.any_eq_true]

def departs (lb : LoadBalancer) (operation : Operation) : Bool :=
  !lb.enabledNodes.all (· ∈ (lb.perform operation).1.enabledNodes)

def departures : LoadBalancer → List Operation → Nat
  | _, [] => 0
  | lb, operation :: rest =>
      (if lb.departs operation then 1 else 0) + departures (lb.perform operation).1 rest

theorem perform_rotation_prefix (lb : LoadBalancer) (operation : Operation)
    (stays : lb.departs operation = false) :
    lb.enabledNodes <+: (lb.perform operation).1.enabledNodes := by
  have kept : ∀ addr ∈ lb.enabledNodes, addr ∈ (lb.perform operation).1.enabledNodes := by
    simpa [departs] using stays
  have change := perform_change lb operation
  generalize (lb.perform operation).1 = after, (lb.perform operation).2 = reply at change kept
  have filtered (leaver : String)
      (kept : ∀ addr ∈ lb.enabledNodes, addr ∈ lb.enabledNodes.filter (· ≠ leaver)) :
      lb.enabledNodes <+: lb.enabledNodes.filter (· ≠ leaver) := by
    have whole : lb.enabledNodes.filter (· ≠ leaver) = lb.enabledNodes :=
      List.filter_eq_self.mpr fun addr member => (List.mem_filter.mp (kept addr member)).2
    exact whole.symm ▸ List.prefix_rfl
  have joined (addr : String) : lb.enabledNodes <+: (lb.joinRotation addr).enabledNodes := by
    unfold joinRotation
    split
    · exact List.prefix_rfl
    · exact List.prefix_append _ _
  cases change with
  | select | check | timeouts | refused | known => exact List.prefix_rfl
  | disabled addr | autoDisabled addr | removed addr => exact filtered addr kept
  | enabled addr | autoEnabled addr => exact joined addr
  | added => exact List.prefix_append _ _

theorem Consistent.serving_iff {lb : LoadBalancer} (consistent : Consistent lb) (addr : String) :
    Serving addr lb ↔ addr ∈ lb.enabledNodes ∧ lb.circuitState addr ≠ some .opened := by
  rw [consistent.rotation addr]
  constructor
  · rintro ⟨node, found, enabled, ready⟩
    exact ⟨⟨node, found, enabled⟩, by simpa [circuitState, found] using ready⟩
  · rintro ⟨⟨node, found, enabled⟩, ready⟩
    exact ⟨node, found, enabled, by simpa [circuitState, found] using ready⟩

/-- How many further calls may bypass the address at a position, in a rotation of at most
`bound` addresses that loses none. -/
def patience (lb : LoadBalancer) (bound position : Nat) : Nat :=
  if lb.roundRobinIndex < lb.enabledNodes.length then
    RoundRobin.distance bound lb.roundRobinIndex position
  -- Removals have left the cursor beyond the end, and the next call wraps it to anywhere.
  else bound - 1

theorem patience_le (lb : LoadBalancer) (bound position : Nat)
    (fits : lb.enabledNodes.length ≤ bound) (within : position < lb.enabledNodes.length) :
    lb.patience bound position ≤ bound - 1 := by
  unfold patience
  split
  next inside =>
    have := RoundRobin.distance_lt bound lb.roundRobinIndex position (by omega) (by omega)
    omega
  next => exact Nat.le_refl _

theorem perform_patience_le (lb : LoadBalancer) (operation : Operation) (bound position : Nat)
    (addr : String) (other : operation.isNextNode = false)
    (stays : lb.departs operation = false) (here : lb.enabledNodes[position]? = some addr)
    (room : (lb.perform operation).1.enabledNodes.length ≤ bound) :
    (lb.perform operation).1.enabledNodes[position]? = some addr ∧
      (lb.perform operation).1.patience bound position ≤ lb.patience bound position := by
  -- The rotation has grown at its end, so the position is still that of `addr`.
  obtain ⟨appended, grown⟩ := perform_rotation_prefix lb operation stays
  have within := (List.getElem?_eq_some_iff.mp here).1
  have longer := congrArg List.length grown
  rw [List.length_append] at longer
  refine ⟨by rw [← grown, List.getElem?_append_left within, here], ?_⟩
  have cursor := (perform_cursor lb operation other).1
  unfold patience
  rw [cursor]
  by_cases normal : lb.roundRobinIndex < lb.enabledNodes.length
  · rw [if_pos (by omega), if_pos normal]
  · rw [if_neg normal]
    have capped := patience_le (lb.perform operation).1 bound position room (by omega)
    rwa [patience, cursor] at capped

theorem chosen_serving (lb : LoadBalancer) (bound position : Nat) (addr : String)
    (wellformed : Wellformed lb) (here : lb.enabledNodes[position]? = some addr)
    (ready : lb.circuitState addr ≠ some .opened) (fits : lb.enabledNodes.length ≤ bound)
    (now : SystemTime) :
    lb.chosen.isSome ∧ (lb.chosen ≠ some addr →
      (lb.afterSelection now).patience bound position < lb.patience bound position) := by
  have within := (List.getElem?_eq_some_iff.mp here).1
  have open' := wellformed.toConsistent.available here ready
  have bounded : lb.roundRobinIndex % lb.enabledNodes.length < lb.enabledNodes.length :=
    Nat.mod_lt _ (by omega)
  obtain ⟨next, selected, result, picked⟩ := RoundRobin.select_succeeds lb.available
    lb.enabledNodes.length lb.roundRobinIndex position within open'
  have inside := picked.within
  have returned : lb.chosen = some lb.enabledNodes[selected] := by
    simp [chosen, result, inside]
  refine ⟨by simp [returned], fun bypassed => ?_⟩
  have passed : position ≠ selected := by
    rintro rfl
    exact bypassed (returned.trans (by simpa [inside] using here))
  have closer := picked.distance_bound_lt bounded bound position fits within open' passed
  have nextBound := picked.next_lt
  have reach := RoundRobin.distance_lt bound
    (lb.roundRobinIndex % lb.enabledNodes.length) position (by omega) (by omega)
  simp only [patience, afterSelection, result, nextBound, if_true]
  split
  next normal => rwa [Nat.mod_eq_of_lt normal] at closer
  next => omega

theorem bypassed_calls_le (lb : LoadBalancer) (stretch : List Operation) (addr : String)
    (bound position : Nat) (wellformed : Wellformed lb)
    (here : lb.enabledNodes[position]? = some addr)
    (serving : machine.Throughout (Serving addr) lb stretch)
    (fits : machine.Throughout (fun state => state.enabledCount ≤ bound) lb stretch)
    (bypassed : some addr ∉ selections lb stretch) :
    (selections lb stretch).length ≤
      lb.patience bound position + departures lb stretch * (bound - 1) := by
  -- Each call that bypasses the address uses up patience, and each departure renews it.
  induction stretch generalizing lb position with
  | nil => simp [selections]
  | cons operation rest ih =>
      have next := perform_wellformed lb operation wellformed
      have ready := (wellformed.serving_iff addr).mp serving.1
      cases call : operation.isNextNode with
      | true =>
          obtain ⟨now, rfl⟩ := Operation.isNextNode_iff.mp call
          rw [selections_nextNode] at bypassed ⊢
          have patient := (chosen_serving lb bound position addr wellformed here ready.2 fits.1
            now).2 fun same => bypassed (by simp [same])
          have stays : lb.departs (.nextNode now) = false := by
            simp [departs, perform_nextNode, afterSelection]
          have later := ih (lb.afterSelection now) position
            (by simpa [perform_nextNode] using next) here
            (by simpa [perform_nextNode] using serving.2)
            (by simpa [perform_nextNode] using fits.2)
            (fun member => bypassed (List.mem_cons_of_mem _ member))
          simp only [List.length_cons, departures, stays, perform_nextNode]
          simp only [Bool.false_eq_true, if_false, Nat.zero_add]
          omega
      | false =>
          rw [selections_other lb operation rest call] at bypassed ⊢
          have served := (next.serving_iff addr).mp serving.2.first
          have room : (lb.perform operation).1.enabledNodes.length ≤ bound := fits.2.first
          cases leaves : lb.departs operation with
          | false =>
              obtain ⟨still, kept⟩ :=
                perform_patience_le lb operation bound position addr call leaves here room
              have later := ih _ position next still serving.2 fits.2 bypassed
              simp only [departures, leaves, Bool.false_eq_true, if_false, Nat.zero_add]
              omega
          | true =>
              -- The address has moved forward by an unknown number of positions.
              obtain ⟨moved, there⟩ := List.mem_iff_getElem?.mp served.1
              have later := ih _ moved next there serving.2 fits.2 bypassed
              have capped := patience_le (lb.perform operation).1 bound moved room
                (List.getElem?_eq_some_iff.mp there).1
              simp only [departures, leaves, if_true, Nat.add_mul, Nat.one_mul]
              omega

theorem serving_calls_succeed (lb : LoadBalancer) (stretch : List Operation) (addr : String)
    (wellformed : Wellformed lb) (serving : machine.Throughout (Serving addr) lb stretch) :
    ∀ selected ∈ selections lb stretch, selected.isSome := by
  induction stretch generalizing lb with
  | nil => simp [selections]
  | cons operation rest ih =>
      have later := ih _ (perform_wellformed lb operation wellformed) serving.2
      cases call : operation.isNextNode with
      | true =>
          obtain ⟨now, rfl⟩ := Operation.isNextNode_iff.mp call
          have ready := (wellformed.serving_iff addr).mp serving.1
          obtain ⟨position, here⟩ := List.mem_iff_getElem?.mp ready.1
          have first := (chosen_serving lb _ position addr wellformed here ready.2 le_rfl now).1
          rw [selections_nextNode]
          simpa [first, perform_nextNode] using later
      | false =>
          rw [selections_other lb operation rest call]
          exact later

def churns (pool : List String) : Operation → Bool
  | .nextNode _ => true
  | .disableNode addr | .enableNode addr => addr ∈ pool
  | _ => false

def spin : List String × Nat → Operation → (List String × Nat) × Option (Option String)
  | (rotation, cursor), .nextNode _ =>
      ((rotation, (cursor + 1) % rotation.length), some rotation[cursor % rotation.length]?)
  | (rotation, cursor), .disableNode addr => ((rotation.filter (· ≠ addr), cursor), none)
  | (rotation, cursor), .enableNode addr =>
      ((if addr ∈ rotation then rotation else rotation ++ [addr], cursor), none)
  | state, _ => (state, none)

def spinning : Machine (List String × Nat) Operation (Option (Option String)) where
  step := spin

structure Calm (pool : List String) (lb : LoadBalancer) : Prop extends Consistent lb where
  pooled : ∀ addr ∈ lb.enabledNodes, addr ∈ pool
  closed : ∀ addr ∈ pool, lb.circuitState addr = some .closed

def spindle (lb : LoadBalancer) : List String × Nat := (lb.enabledNodes, lb.roundRobinIndex)

theorem Calm.chosen {pool : List String} {lb : LoadBalancer} (calm : Calm pool lb)
    (nonempty : lb.enabledNodes ≠ []) (now : SystemTime) :
    lb.chosen = lb.enabledNodes[lb.roundRobinIndex % lb.enabledNodes.length]? ∧
      (lb.afterSelection now).roundRobinIndex =
        (lb.roundRobinIndex + 1) % lb.enabledNodes.length := by
  have positive := List.length_pos_iff.mpr nonempty
  have within := Nat.mod_lt lb.roundRobinIndex positive
  have ready : lb.available (lb.roundRobinIndex % lb.enabledNodes.length) = true := by
    rw [available_getElem lb _ within, selectable,
      calm.closed _ (calm.pooled _ (List.getElem_mem within))]
    rfl
  obtain ⟨remaining, size⟩ := Nat.exists_eq_succ_of_ne_zero (Nat.pos_iff_ne_zero.mp positive)
  have picked : RoundRobin.select lb.available lb.enabledNodes.length lb.roundRobinIndex =
      ((lb.roundRobinIndex + 1) % lb.enabledNodes.length,
        some (lb.roundRobinIndex % lb.enabledNodes.length)) := by
    simp only [RoundRobin.select]
    rw [size] at ready ⊢
    simp [RoundRobin.scan, ready]
  simp [LoadBalancer.chosen, afterSelection, picked]

theorem Calm.perform {pool : List String} {lb : LoadBalancer} (calm : Calm pool lb)
    (operation : Operation) (churn : churns pool operation = true)
    (nonempty : lb.enabledNodes ≠ []) :
    Calm pool (lb.perform operation).1 ∧
      spin lb.spindle operation =
        ((lb.perform operation).1.spindle, (lb.perform operation).2.selection?) := by
  have consistent := perform_consistent lb operation calm.toConsistent
  have present (addr : String) (pooled : addr ∈ pool) :
      ∃ node, lb.nodes.lookup addr = some node ∧ node.circuitState = .closed := by
    simpa [circuitState] using calm.closed addr pooled
  cases operation with
  | nextNode now =>
      obtain ⟨returned, cursor⟩ := calm.chosen nonempty now
      rw [perform_nextNode] at consistent ⊢
      refine ⟨⟨consistent, calm.pooled, fun addr pooled => ?_⟩, ?_⟩
      · obtain ⟨update, which, found⟩ := afterSelection_lookup lb now addr
        have closed := calm.closed addr pooled
        rcases which with rfl | rfl <;>
          simpa [circuitState, found, Function.comp_def, Node.served] using closed
      · rw [spindle, spindle, cursor, returned]
        rfl
  | disableNode addr =>
      have pooled : addr ∈ pool := by simpa [churns] using churn
      obtain ⟨node, found, closed⟩ := present addr pooled
      simp only [LoadBalancer.perform, disableNode, found] at consistent ⊢
      refine ⟨⟨consistent, fun other member => ?_, fun other pooled => ?_⟩, rfl⟩
      · exact calm.pooled other ((mem_leaveRotation lb addr other .manual).mp member).1
      by_cases same : other = addr
      · subst same
        simp [circuitState, found, Node.disabledFor, closed]
      · simpa [circuitState, same] using calm.closed other pooled
  | enableNode addr =>
      have pooled : addr ∈ pool := by simpa [churns] using churn
      obtain ⟨node, found, closed⟩ := present addr pooled
      simp only [LoadBalancer.perform, enableNode, found] at consistent ⊢
      refine ⟨⟨consistent, fun other member => ?_, fun other pooled => ?_⟩, rfl⟩
      · rcases (mem_joinRotation lb addr other).mp member with rfl | old
        · exact pooled
        · exact calm.pooled other old
      · by_cases same : other = addr
        · subst same
          simp [circuitState, found, Node.reenabled, closed]
        · simpa [circuitState, same] using calm.closed other pooled
  | _ => simp [churns] at churn

theorem Calm.run {pool : List String} {lb : LoadBalancer} (calm : Calm pool lb)
    (stretch : List Operation) (churn : stretch.all (churns pool) = true) (addr : String)
    (bound : Nat) (listed : spinning.Throughout
      (fun state => addr ∈ state.1 ∧ state.1.length ≤ bound) lb.spindle stretch) :
    Calm pool (machine.run lb stretch) ∧
    (machine.run lb stretch).spindle = spinning.run lb.spindle stretch ∧
    selections lb stretch = (spinning.outputs lb.spindle stretch).filterMap id ∧
    machine.Throughout (Serving addr) lb stretch ∧
    machine.Throughout (fun state => state.enabledCount ≤ bound) lb stretch := by
  have serving (lb : LoadBalancer) (calm : Calm pool lb) (member : addr ∈ lb.enabledNodes) :
      Serving addr lb :=
    (calm.serving_iff addr).mpr ⟨member, by simp [calm.closed addr (calm.pooled addr member)]⟩
  induction stretch generalizing lb with
  | nil => exact ⟨calm, rfl, rfl, serving lb calm listed.1, listed.2⟩
  | cons operation rest ih =>
      obtain ⟨first, others⟩ : churns pool operation = true ∧ rest.all (churns pool) = true := by
        simpa using churn
      obtain ⟨here, later⟩ := listed
      obtain ⟨next, moved⟩ := calm.perform operation first (List.ne_nil_of_mem here.1)
      have step : spinning.step lb.spindle operation =
          ((lb.perform operation).1.spindle, (lb.perform operation).2.selection?) := moved
      rw [step] at later
      obtain ⟨calm', state, selected, served, counted⟩ := ih next others later
      refine ⟨calm', ?_, ?_, ⟨serving lb calm here.1, served⟩, ⟨here.2, counted⟩⟩
      · rw [Machine.run_cons, Machine.run_cons, step]
        exact state
      · rw [Machine.outputs_cons, step]
        cases picked : (lb.perform operation).2.selection? with
        | none => simpa [selections, picked] using selected
        | some addr => simpa [selections, picked] using selected

def churn : List Operation :=
  -- Two of four other nodes leave and come back, and then the other two.
  [.disableNode "http://x", .disableNode "http://y", .nextNode 0, .enableNode "http://x",
    .enableNode "http://y", .nextNode 0, .nextNode 0, .disableNode "http://z",
    .disableNode "http://w", .nextNode 0, .enableNode "http://z", .enableNode "http://w",
    .nextNode 0, .nextNode 0]

theorem churn_spins (rounds : Nat) :
    let start := (["http://b", "http://x", "http://y", "http://z", "http://w"], 4)
    let schedule := (List.replicate rounds churn).flatten
    spinning.Throughout (fun state => "http://b" ∈ state.1 ∧ state.1.length ≤ 5) start schedule ∧
    (spinning.outputs start schedule).filterMap id =
      (List.replicate rounds [some "http://z", some "http://w", some "http://x", some "http://x",
        some "http://y", some "http://z"]).flatten := by
  intro start
  -- A round of the churn ends where it began, with the cursor past the first position.
  induction rounds with
  | zero => exact ⟨by decide, rfl⟩
  | succ rounds ih =>
      have back : spinning.run start churn = start := by decide
      simp only [List.replicate_succ, List.flatten_cons, Machine.throughout_append,
        Machine.outputs_append, List.filterMap_append, back]
      refine ⟨⟨by decide, ih.1⟩, ?_⟩
      rw [ih.2]
      congr 1

theorem bounded_bypass (nodeAddrs : List String) (config : CircuitBreakerConfig)
    (distinct : nodeAddrs.Nodup) (history stretch : List Operation) (addr : String) (bound : Nat)
    (serving : machine.Throughout (Serving addr)
      (machine.run (withConfig nodeAddrs config) history) stretch)
    (fits : machine.Throughout (fun state => state.enabledCount ≤ bound)
      (machine.run (withConfig nodeAddrs config) history) stretch)
    (calls : (departures (machine.run (withConfig nodeAddrs config) history) stretch + 1) *
      (bound - 1) <
        (selections (machine.run (withConfig nodeAddrs config) history) stretch).length) :
    (∀ selected ∈ selections (machine.run (withConfig nodeAddrs config) history) stretch,
      selected.isSome) ∧
    some addr ∈ selections (machine.run (withConfig nodeAddrs config) history) stretch := by
  have wellformed := run_wellformed nodeAddrs config distinct history
  generalize machine.run (withConfig nodeAddrs config) history = lb at *
  refine ⟨serving_calls_succeed lb stretch addr wellformed serving, ?_⟩
  by_contra bypassed
  have listed := ((wellformed.serving_iff addr).mp serving.first).1
  obtain ⟨position, here⟩ := List.mem_iff_getElem?.mp listed
  have counted := bypassed_calls_le lb stretch addr bound position wellformed here serving fits
    bypassed
  have capped := patience_le lb bound position fits.first (List.getElem?_eq_some_iff.mp here).1
  rw [Nat.add_mul, Nat.one_mul] at calls
  omega

theorem bounded_bypass_witness :
    let lb := machine.run (withConfig ["http://x", "http://b"] .default) []
    let stretch := [Operation.nextNode 0, .disableNode "http://x", .enableNode "http://x",
      .nextNode 1, .nextNode 2]
    (∀ selected ∈ selections lb stretch, selected.isSome) ∧
      some "http://b" ∈ selections lb stretch :=
  bounded_bypass ["http://x", "http://b"] .default (by decide) [] _ "http://b" 2 (by decide)
    (by decide) (by decide)

theorem bypass_unbounded :
    -- One departure is enough for a node to be chosen twice in a row.
    (let lb := machine.run (new ["http://x", "http://b"]) []
      let stretch := [Operation.nextNode 0, .disableNode "http://x", .enableNode "http://x",
        .nextNode 1]
      machine.Throughout (Serving "http://b") lb stretch ∧
      machine.Throughout (fun state => state.enabledCount ≤ 2) lb stretch ∧
      selections lb stretch = [some "http://x", some "http://x"]) ∧
    -- Repeated churn starves a serving node, however many calls succeed.
    ∀ rounds,
      let lb := machine.run
        (new ["http://b", "http://x", "http://y", "http://z", "http://w"])
        [.nextNode 0, .nextNode 0, .nextNode 0, .nextNode 0]
      let schedule := (List.replicate rounds churn).flatten
      machine.Throughout (Serving "http://b") lb schedule ∧
      machine.Throughout (fun state => state.enabledCount ≤ 5) lb schedule ∧
      selections lb schedule =
        (List.replicate rounds [some "http://z", some "http://w", some "http://x",
          some "http://x", some "http://y", some "http://z"]).flatten := by
  refine ⟨by decide, fun rounds => ?_⟩
  have calm : Calm ["http://b", "http://x", "http://y", "http://z", "http://w"]
      (machine.run (new ["http://b", "http://x", "http://y", "http://z", "http://w"])
        [.nextNode 0, .nextNode 0, .nextNode 0, .nextNode 0]) :=
    ⟨Reachable.consistent ⟨.default, _, rfl⟩, by decide, by decide⟩
  have churning : ((List.replicate rounds churn).flatten).all
      (churns ["http://b", "http://x", "http://y", "http://z", "http://w"]) = true := by
    rw [List.all_flatten]
    refine List.all_eq_true.mpr fun round member => ?_
    rw [List.eq_of_mem_replicate member]
    decide
  obtain ⟨listed, spun⟩ := churn_spins rounds
  obtain ⟨_, _, selected, serving, fits⟩ := calm.run _ churning "http://b" 5 listed
  exact ⟨serving, fits, selected.trans spun⟩

end MadRpc.LoadBalancer
