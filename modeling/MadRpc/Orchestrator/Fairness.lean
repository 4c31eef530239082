import MadRpc.Orchestrator.Membership

set_option autoImplicit false

namespace MadRpc

def Operation.isNextNode : Operation → Bool
  | .nextNode _ => true
  | _ => false

theorem Operation.isNextNode_iff {operation : Operation} :
    operation.isNextNode = true ↔ ∃ now, operation = .nextNode now := by
  cases operation <;> simp [isNextNode]

def Reply.selection? : Reply → Option (Option String)
  | .selected addr => some addr
  | _ => none

namespace LoadBalancer

def selections (lb : LoadBalancer) (operations : List Operation) : List (Option String) :=
  (machine.outputs lb operations).filterMap Reply.selection?

structure Wellformed (lb : LoadBalancer) : Prop extends Consistent lb where
  distinct : lb.enabledNodes.Nodup

theorem perform_wellformed (lb : LoadBalancer) (operation : Operation)
    (wellformed : Wellformed lb) : Wellformed (lb.perform operation).1 := by
  refine ⟨perform_consistent lb operation wellformed.toConsistent, ?_⟩
  have distinct := wellformed.distinct
  have change := perform_change lb operation
  generalize (lb.perform operation).1 = after, (lb.perform operation).2 = reply at change
  cases change with
  | select | check | timeouts | refused | known => exact distinct
  | disabled | autoDisabled | removed => exact distinct.filter _
  | enabled addr | autoEnabled addr => exact joinRotation_nodup lb addr distinct
  | added addr absent =>
      -- An address outside the map is not in the rotation, so it can be pushed unseen.
      have unlisted : addr ∉ lb.enabledNodes := by
        intro listed
        obtain ⟨node, found, _⟩ := (wellformed.rotation addr).mp listed
        exact absent (AList.lookup_isSome.mp (by simp [found]))
      refine List.nodup_append.mpr ⟨distinct, List.nodup_singleton addr, ?_⟩
      rintro other member _ (single : _ ∈ [addr]) rfl
      exact unlisted (List.mem_singleton.mp single ▸ member)

theorem run_wellformed (nodeAddrs : List String) (config : CircuitBreakerConfig)
    (distinct : nodeAddrs.Nodup) (operations : List Operation) :
    Wellformed (machine.run (withConfig nodeAddrs config) operations) :=
  machine.run_invariant Wellformed perform_wellformed _ operations
    ⟨withConfig_consistent nodeAddrs config, distinct⟩

theorem Wellformed.getElem?_iff {lb : LoadBalancer} (wellformed : Wellformed lb)
    {position other : Nat} {addr : String} (here : lb.enabledNodes[position]? = some addr) :
    lb.enabledNodes[other]? = some addr ↔ other = position := by
  constructor
  · intro there
    have within := (List.getElem?_eq_some_iff.mp here).1
    exact ((List.getElem?_inj within wellformed.distinct).mp (here.trans there.symm)).symm
  · rintro rfl
    exact here

theorem Wellformed.count_eq {lb : LoadBalancer} (wellformed : Wellformed lb) {position : Nat}
    {addr : String} (here : lb.enabledNodes[position]? = some addr)
    (outputs : List (Option Nat)) :
    (outputs.map fun position => position.bind (lb.enabledNodes[·]?)).count (some addr) =
      outputs.count (some position) := by
  simp only [List.count, List.countP_map]
  apply List.countP_congr
  intro output _
  cases output with
  | none => simp
  | some other => simp [wellformed.getElem?_iff here]

theorem Consistent.available {lb : LoadBalancer} (consistent : Consistent lb) {position : Nat}
    {addr : String} (here : lb.enabledNodes[position]? = some addr)
    (ready : lb.circuitState addr ≠ some .opened) : lb.available position = true := by
  obtain ⟨node, found, _⟩ := (consistent.rotation addr).mp (List.mem_of_getElem? here)
  simpa [LoadBalancer.available, here, selectable, circuitState, found] using ready

def views : LoadBalancer → List Operation → List (Nat → Bool)
  | _, [] => []
  | lb, .nextNode now :: rest => lb.available :: views (lb.perform (.nextNode now)).1 rest
  | lb, operation :: rest => views (lb.perform operation).1 rest

theorem perform_nextNode (lb : LoadBalancer) (now : SystemTime) :
    lb.perform (.nextNode now) = (lb.afterSelection now, .selected lb.chosen) := by
  simp [perform, nextNode_correct]

theorem perform_cursor (lb : LoadBalancer) (operation : Operation)
    (other : operation.isNextNode = false) :
    (lb.perform operation).1.roundRobinIndex = lb.roundRobinIndex ∧
      (lb.perform operation).2.selection? = none := by
  have change := perform_change lb operation
  generalize (lb.perform operation).1 = after, (lb.perform operation).2 = reply at change
  cases change with
  | select => simp [Operation.isNextNode] at other
  | _ => exact ⟨rfl, rfl⟩

theorem views_other (lb : LoadBalancer) (operation : Operation) (rest : List Operation)
    (other : operation.isNextNode = false) :
    views lb (operation :: rest) = views (lb.perform operation).1 rest := by
  cases operation with
  | nextNode => simp [Operation.isNextNode] at other
  | _ => rfl

theorem selections_other (lb : LoadBalancer) (operation : Operation) (rest : List Operation)
    (other : operation.isNextNode = false) :
    selections lb (operation :: rest) = selections (lb.perform operation).1 rest := by
  simp [selections, (perform_cursor lb operation other).2]

theorem selections_nextNode (lb : LoadBalancer) (now : SystemTime) (rest : List Operation) :
    selections lb (.nextNode now :: rest) =
      lb.chosen :: selections (lb.afterSelection now) rest := by
  simp [selections, perform_nextNode, Reply.selection?]

theorem selections_ring (lb : LoadBalancer) (stretch : List Operation) (rotation : List String)
    (steady : machine.Throughout (fun state => state.enabledNodes = rotation) lb stretch) :
    selections lb stretch =
      ((RoundRobin.ring rotation.length).outputs lb.roundRobinIndex (views lb stretch)).map
        fun position => position.bind (rotation[·]?) := by
  -- Operations other than `next_node` are no input of the ring: they leave the cursor.
  induction stretch generalizing lb with
  | nil => rfl
  | cons operation rest ih =>
      obtain ⟨here, later⟩ := steady
      have tail := ih _ later
      rw [machine_step] at tail
      cases call : operation.isNextNode with
      | true =>
        obtain ⟨now, rfl⟩ := Operation.isNextNode_iff.mp call
        rw [perform_nextNode] at tail
        rw [selections_nextNode, tail]
        simp [views, perform_nextNode, RoundRobin.ring, chosen, afterSelection, here]
      | false =>
        rw [selections_other lb operation rest call, views_other lb operation rest call, tail,
          (perform_cursor lb operation call).1]

theorem views_ready (lb : LoadBalancer) (stretch : List Operation) (rotation : List String)
    (position : Nat) (addr : String) (here : rotation[position]? = some addr)
    (consistent : Consistent lb)
    (steady : machine.Throughout (fun state => state.enabledNodes = rotation) lb stretch)
    (ready : machine.EachStep (fun state operation => operation.isNextNode →
      state.circuitState addr ≠ some .opened) lb stretch) :
    ∀ view ∈ views lb stretch, view position = true := by
  induction stretch generalizing lb with
  | nil => simp [views]
  | cons operation rest ih =>
      have later := ih _ (perform_consistent lb operation consistent) steady.2 ready.2
      cases call : operation.isNextNode with
      | true =>
        obtain ⟨now, rfl⟩ := Operation.isNextNode_iff.mp call
        intro view member
        rcases List.mem_cons.mp member with rfl | member
        · exact consistent.available (steady.1 ▸ here) (ready.1 call)
        · exact later view member
      | false =>
        rw [views_other lb operation rest call]
        exact later

theorem round_robin_fair (nodeAddrs : List String) (config : CircuitBreakerConfig)
    (distinct : nodeAddrs.Nodup) (history stretch : List Operation) (first second : String)
    (firstIn : first ∈ (machine.run (withConfig nodeAddrs config) history).enabledNodes)
    (secondIn : second ∈ (machine.run (withConfig nodeAddrs config) history).enabledNodes)
    (steady : machine.Throughout (fun state => state.enabledNodes =
        (machine.run (withConfig nodeAddrs config) history).enabledNodes)
      (machine.run (withConfig nodeAddrs config) history) stretch)
    (ready : ∀ addr, addr = first ∨ addr = second →
      machine.EachStep (fun state operation => operation.isNextNode →
          state.circuitState addr ≠ some .opened)
        (machine.run (withConfig nodeAddrs config) history) stretch)
    (start length : Nat) :
    let window := ((selections (machine.run (withConfig nodeAddrs config) history)
      stretch).drop start).take length
    window.count (some first) ≤ window.count (some second) + 1 ∧
      window.count (some second) ≤ window.count (some first) + 1 := by
  have wellformed := run_wellformed nodeAddrs config distinct history
  generalize machine.run (withConfig nodeAddrs config) history = lb at *
  obtain ⟨firstPosition, firstHere⟩ := List.mem_iff_getElem?.mp firstIn
  obtain ⟨secondPosition, secondHere⟩ := List.mem_iff_getElem?.mp secondIn
  have firstReady := views_ready lb stretch _ firstPosition first firstHere
    wellformed.toConsistent steady (ready first (.inl rfl))
  have secondReady := views_ready lb stretch _ secondPosition second secondHere
    wellformed.toConsistent steady (ready second (.inr rfl))
  -- Counting an address is counting its position in the outputs of the ring.
  simp only [selections_ring lb stretch _ steady, ← List.map_drop, ← List.map_take,
    Machine.outputs_drop, Machine.outputs_take, wellformed.count_eq firstHere,
    wellformed.count_eq secondHere]
  have bounds := And.intro (List.getElem?_eq_some_iff.mp firstHere).1
    (List.getElem?_eq_some_iff.mp secondHere).1
  have member (view : Nat → Bool)
      (inside : view ∈ ((views lb stretch).drop start).take length) : view ∈ views lb stretch :=
    List.mem_of_mem_drop (List.mem_of_mem_take inside)
  exact ⟨RoundRobin.ring_fair _ _ _ _ _ bounds.1 bounds.2 fun view inside =>
      ⟨firstReady view (member view inside), secondReady view (member view inside)⟩,
    RoundRobin.ring_fair _ _ _ _ _ bounds.2 bounds.1 fun view inside =>
      ⟨secondReady view (member view inside), firstReady view (member view inside)⟩⟩

theorem round_robin_fair_witness :
    let lb := machine.run (withConfig ["http://a", "http://b", "http://c"] .default) []
    -- The node between the two trips its circuit in the middle of the stretch.
    let stretch := [Operation.nextNode 0] ++
      List.replicate 5 (Operation.updateHealthStatus "http://b" (.unhealthy "refused") 1 1) ++
      [.nextNode 2, .nextNode 3, .nextNode 4]
    let window := ((selections lb stretch).drop 1).take 3
    window.count (some "http://a") ≤ window.count (some "http://c") + 1 ∧
      window.count (some "http://c") ≤ window.count (some "http://a") + 1 := by
  refine round_robin_fair _ _ (by decide) _ _ "http://a" "http://c" (by decide) (by decide)
    (by decide) ?_ 1 3
  rintro addr (rfl | rfl) <;> decide

end LoadBalancer

end MadRpc
