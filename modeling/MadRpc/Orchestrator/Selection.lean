import MadRpc.Orchestrator.LoadBalancer
import MadRpc.Shared.RoundRobin

set_option autoImplicit false

namespace MadRpc.LoadBalancer

def selectable (lb : LoadBalancer) (addr : String) : Bool :=
  (lb.circuitState addr).any (· ≠ .opened)

def available (lb : LoadBalancer) (position : Nat) : Bool :=
  (lb.enabledNodes[position]?).any lb.selectable

def chosen (lb : LoadBalancer) : Option String :=
  (RoundRobin.select lb.available lb.enabledNodes.length lb.roundRobinIndex).2.bind
    (lb.enabledNodes[·]?)

def afterSelection (lb : LoadBalancer) (now : SystemTime) : LoadBalancer :=
  { lb with
    roundRobinIndex :=
      (RoundRobin.select lb.available lb.enabledNodes.length lb.roundRobinIndex).1
    nodes := lb.chosen.elim lb.nodes fun addr => lb.nodes.modify addr (Node.served now) }

theorem available_getElem (lb : LoadBalancer) (position : Nat)
    (within : position < lb.enabledNodes.length) :
    lb.available position = lb.selectable lb.enabledNodes[position] := by
  simp [available, within]

theorem available_cursor (lb : LoadBalancer) (cursor : Nat) :
    available { lb with roundRobinIndex := cursor } = lb.available := rfl

theorem nextNodeLoop_correct (now : SystemTime) (remaining : Nat) (lb : LoadBalancer)
    (nonempty : 0 < lb.enabledNodes.length) :
    let picked := RoundRobin.scan lb.available lb.enabledNodes.length remaining lb.roundRobinIndex
    let addr := picked.2.bind (lb.enabledNodes[·]?)
    nextNodeLoop now remaining lb =
      ({ lb with
          roundRobinIndex := picked.1
          nodes := addr.elim lb.nodes fun addr => lb.nodes.modify addr (Node.served now) },
        addr) := by
  -- The loop moves only the cursor until it returns, so one availability serves all rounds.
  induction remaining generalizing lb with
  | zero => rfl
  | succ remaining ih =>
      have bounded := Nat.mod_lt lb.roundRobinIndex nonempty
      have later := ih { lb with
        roundRobinIndex := (lb.roundRobinIndex + 1) % lb.enabledNodes.length } nonempty
      rw [available_cursor] at later
      simp only [nextNodeLoop, RoundRobin.scan, List.getElem?_eq_getElem bounded,
        available_getElem lb _ bounded]
      cases found : lb.nodes.lookup
          lb.enabledNodes[lb.roundRobinIndex % lb.enabledNodes.length] with
      | none => simpa [selectable, circuitState, found] using later
      | some node =>
          by_cases failing : node.circuitState = .opened
          · simpa [selectable, circuitState, found, failing] using later
          · simp [selectable, circuitState, found, failing, bounded]

theorem nextNode_correct (lb : LoadBalancer) (now : SystemTime) :
    lb.nextNode now = (lb.afterSelection now, lb.chosen) := by
  unfold nextNode
  split
  next empty =>
    have none : lb.enabledNodes.length = 0 := by simpa using empty
    simp [afterSelection, chosen, none, RoundRobin.select, RoundRobin.scan]
  next nonempty =>
    exact nextNodeLoop_correct now _ lb (List.length_pos_iff.mpr (by simpa using nonempty))

theorem chosen_mem (lb : LoadBalancer) (addr : String) (returned : lb.chosen = some addr) :
    addr ∈ lb.enabledNodes := by
  obtain ⟨position, _, found⟩ := Option.bind_eq_some_iff.mp returned
  exact List.mem_of_getElem? found

theorem afterSelection_lookup (lb : LoadBalancer) (now : SystemTime) (addr : String) :
    ∃ update : Node → Node, (update = id ∨ update = Node.served now) ∧
      (lb.afterSelection now).nodes.lookup addr = (lb.nodes.lookup addr).map update := by
  unfold afterSelection
  cases lb.chosen with
  | none => exact ⟨id, .inl rfl, by simp⟩
  | some served =>
      by_cases same : addr = served
      · exact ⟨Node.served now, .inr rfl, by simp [same]⟩
      · exact ⟨id, .inl rfl, by simp [same]⟩

theorem afterSelection_circuitState (lb : LoadBalancer) (now : SystemTime) (addr : String) :
    (lb.afterSelection now).circuitState addr = lb.circuitState addr := by
  obtain ⟨update, which, found⟩ := afterSelection_lookup lb now addr
  rcases which with rfl | rfl <;> simp [circuitState, found, Function.comp_def, Node.served]

def inTurn (lb : LoadBalancer) : List String :=
  (lb.enabledNodes.rotate lb.roundRobinIndex).filter lb.selectable

theorem inTurn_queue (lb : LoadBalancer) :
    (RoundRobin.queue lb.available lb.enabledNodes.length lb.roundRobinIndex).map
      (lb.enabledNodes[·]?) = lb.inTurn.map some := by
  have listed : (List.range lb.enabledNodes.length).map (lb.enabledNodes[·]?) =
      lb.enabledNodes.map some :=
    List.ext_getElem (by simp) fun position within _ => by
      simp [show position < lb.enabledNodes.length by simpa using within]
  have ready : lb.available = (fun addr => addr.any lb.selectable) ∘ (lb.enabledNodes[·]?) := rfl
  rw [RoundRobin.queue, ready, ← List.filter_map, List.map_rotate, listed, ← List.map_rotate,
    List.filter_map]
  rfl

theorem inTurn_congr {lb after : LoadBalancer} (rotation : after.enabledNodes = lb.enabledNodes)
    (circuits : ∀ addr, after.circuitState addr = lb.circuitState addr)
    (cursor : after.roundRobinIndex = lb.roundRobinIndex) : after.inTurn = lb.inTurn := by
  have same : after.selectable = lb.selectable := by
    funext addr
    rw [selectable, circuits addr, selectable]
  rw [inTurn, inTurn, rotation, same, cursor]

theorem selection_none (lb : LoadBalancer) (now : SystemTime) (nobody : lb.inTurn = []) :
    lb.chosen = none ∧ lb.afterSelection now =
      { lb with
        roundRobinIndex :=
          if lb.enabledNodes.length = 0 then lb.roundRobinIndex
          else lb.roundRobinIndex % lb.enabledNodes.length } := by
  have empty : RoundRobin.queue lb.available lb.enabledNodes.length lb.roundRobinIndex = [] := by
    simpa [nobody] using lb.inTurn_queue
  have result := RoundRobin.select_of_queue_nil _ _ _ empty
  have unselected : lb.chosen = none := by rw [chosen, result, Option.bind_none]
  exact ⟨unselected, by rw [afterSelection, unselected, result, Option.elim_none]⟩

theorem selection_some (lb : LoadBalancer) (now : SystemTime) (addr : String)
    (rest : List String) (turn : lb.inTurn = addr :: rest) :
    lb.chosen = some addr ∧ (lb.afterSelection now).inTurn = rest ++ [addr] ∧
      ∃ position, lb.enabledNodes[position]? = some addr ∧
        (lb.afterSelection now).roundRobinIndex = (position + 1) % lb.enabledNodes.length := by
  have queued := lb.inTurn_queue
  rw [turn, List.map_cons] at queued
  obtain ⟨position, later, positions, here, others⟩ := List.map_eq_cons_iff.mp queued
  obtain ⟨result, moved⟩ := RoundRobin.select_of_queue_cons _ _ _ _ _ positions
  refine ⟨by rw [chosen, result, Option.bind_some, here], ?_, position, here,
    by rw [afterSelection, result]⟩
  -- The call changes no circuit, so the cursor alone tells the old order from the new.
  have order := inTurn_queue { lb with
    roundRobinIndex := (position + 1) % lb.enabledNodes.length }
  rw [available_cursor, moved, List.map_append, others] at order
  have same := @inTurn_congr
    { lb with roundRobinIndex := (position + 1) % lb.enabledNodes.length } (lb.afterSelection now)
    rfl (lb.afterSelection_circuitState now) (by rw [afterSelection, result])
  rw [same]
  apply List.map_injective_iff.mpr (Option.some_injective String)
  simpa [here] using order.symm

end MadRpc.LoadBalancer
