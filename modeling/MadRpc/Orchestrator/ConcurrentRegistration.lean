import MadRpc.Orchestrator.Registration

set_option autoImplicit false

namespace MadRpc

theorem addNode_lookup_ne (lb : LoadBalancer) (addr other : String) (different : other ≠ addr) :
    (lb.addNode addr).nodes.lookup other = lb.nodes.lookup other := by
  unfold LoadBalancer.addNode
  split
  · rfl
  · exact AList.lookup_insert_ne different

theorem enableNode_lookup_ne (lb : LoadBalancer) (addr other : String)
    (different : other ≠ addr) :
    (lb.enableNode addr).1.nodes.lookup other = lb.nodes.lookup other := by
  unfold LoadBalancer.enableNode
  split
  · simp [different]
  · rfl

theorem registerNode_invalid (lb : LoadBalancer) (nodeUrl : String)
    (invalid : isHttpUrl nodeUrl = false) :
    registerNode lb nodeUrl =
      (lb, .error (.invalidRequest "Invalid node URL: must start with http:// or https://")) := by
  simp [registerNode, invalid]

theorem registerNode_lookup_ite (lb : LoadBalancer) (nodeUrl addr : String) :
    (registerNode lb nodeUrl).1.nodes.lookup addr =
      if addr = nodeUrl ∧ isHttpUrl addr = true then
        some ((lb.nodes.lookup addr).getD (Node.new addr)).reenabled
      else lb.nodes.lookup addr := by
  by_cases same : addr = nodeUrl
  · subst same
    cases valid : isHttpUrl addr with
    | true => simp [registerNode_lookup lb addr valid]
    | false => simp [registerNode_invalid lb addr valid]
  · simp only [same, false_and, if_false]
    cases valid : isHttpUrl nodeUrl with
    | true =>
        simp only [registerNode, valid, Bool.not_true, Bool.false_eq_true, if_false]
        rw [enableNode_lookup_ne _ _ _ same, addNode_lookup_ne _ _ _ same]
    | false => rw [registerNode_invalid lb nodeUrl valid]

theorem nodeCount_lt_registerNode (lb : LoadBalancer) (nodeUrl : String) :
    lb.nodeCount < ((lb.addNode nodeUrl).enableNode nodeUrl).1.nodeCount ↔
      nodeUrl ∉ lb.nodes := by
  -- Enabling rewrites a node in its place, so only an insertion adds to the count.
  have kept : ((lb.addNode nodeUrl).enableNode nodeUrl).1.nodeCount =
      (lb.addNode nodeUrl).nodeCount := by
    unfold LoadBalancer.enableNode
    split
    · exact congrArg List.length (AList.keys_modify _ _ _)
    · rfl
  rw [kept]
  unfold LoadBalancer.addNode
  split
  next present => simp [present]
  next absent =>
    have grown : (lb.nodes.insert nodeUrl (Node.new nodeUrl)).keys = nodeUrl :: lb.nodes.keys :=
      AList.keys_insert_absent _ _ _ (AList.lookup_eq_none.mpr absent)
    simp [LoadBalancer.nodeCount, grown, absent]

theorem registerNode_reply (lb : LoadBalancer) (nodeUrl : String)
    (valid : isHttpUrl nodeUrl = true) :
    (registerNode lb nodeUrl).2 = .ok ⟨nodeUrl, decide (nodeUrl ∉ lb.nodes)⟩ := by
  simp only [registerNode, valid, Bool.not_true, Bool.false_eq_true, if_false,
    nodeCount_lt_registerNode lb nodeUrl]

def registrations :
    Machine LoadBalancer String (Except MadrpcError NodeRegistrationResponse) where
  step := registerNode

@[simp]
theorem registrations_step (lb : LoadBalancer) (nodeUrl : String) :
    registrations.step lb nodeUrl = registerNode lb nodeUrl := rfl

def RegisteredBy (urls : List String) (addr : String) : Prop :=
  addr ∈ urls ∧ isHttpUrl addr = true

instance (urls : List String) (addr : String) : Decidable (RegisteredBy urls addr) :=
  inferInstanceAs (Decidable (_ ∧ _))

theorem registeredBy_cons (nodeUrl : String) (rest : List String) (addr : String) :
    RegisteredBy (nodeUrl :: rest) addr ↔
      (addr = nodeUrl ∧ isHttpUrl addr = true) ∨ RegisteredBy rest addr := by
  rw [RegisteredBy, List.mem_cons, or_and_right, RegisteredBy]

theorem registrations_lookup (lb : LoadBalancer) (urls : List String) (addr : String) :
    (registrations.run lb urls).nodes.lookup addr =
      if RegisteredBy urls addr then
        some ((lb.nodes.lookup addr).getD (Node.new addr)).reenabled
      else lb.nodes.lookup addr := by
  induction urls generalizing lb with
  | nil => simp [RegisteredBy]
  | cons nodeUrl rest ih =>
      rw [Machine.run_cons, registrations_step, ih, registerNode_lookup_ite,
        if_congr (registeredBy_cons nodeUrl rest addr) rfl rfl]
      by_cases here : addr = nodeUrl ∧ isHttpUrl addr = true
      · -- A node that registers again is as the first time left it.
        rw [if_pos here, if_pos (Or.inl here)]
        by_cases later : RegisteredBy rest addr
        · rw [if_pos later]
          rfl
        · rw [if_neg later]
      · rw [if_neg here, if_congr (or_iff_right here) rfl rfl]

theorem mem_registrations (lb : LoadBalancer) (urls : List String) (addr : String) :
    addr ∈ (registrations.run lb urls).nodes ↔ addr ∈ lb.nodes ∨ RegisteredBy urls addr := by
  rw [← AList.lookup_isSome, registrations_lookup, ← AList.lookup_isSome]
  split
  next registered => simp [registered]
  next unregistered => simp [unregistered]

theorem registrations_wellformed (lb : LoadBalancer) (urls : List String)
    (wellformed : lb.Wellformed) : (registrations.run lb urls).Wellformed := by
  refine registrations.run_invariant LoadBalancer.Wellformed (fun state nodeUrl holds => ?_) lb urls
    wellformed
  cases valid : isHttpUrl nodeUrl with
  | true =>
      rw [registrations_step, registerNode_correct state nodeUrl valid]
      exact LoadBalancer.machine.run_invariant _ LoadBalancer.perform_wellformed _ _ holds
  | false => rwa [registrations_step, registerNode_invalid state nodeUrl valid]

theorem registrations_reply (lb : LoadBalancer) (urls : List String) (index : Nat)
    (nodeUrl : String) (call : urls[index]? = some nodeUrl) (valid : isHttpUrl nodeUrl = true) :
    (registrations.outputs lb urls)[index]? =
      some (.ok ⟨nodeUrl, decide (nodeUrl ∉ lb.nodes ∧ nodeUrl ∉ urls.take index)⟩) := by
  rw [Machine.outputs_getElem?, call, Option.map_some, registrations_step,
    registerNode_reply _ nodeUrl valid]
  simp [mem_registrations, RegisteredBy, valid]

theorem registrations_perm (lb : LoadBalancer) (wellformed : lb.Wellformed)
    (urls other : List String) (order : other.Perm urls) :
    (∀ addr, (registrations.run lb other).nodes.lookup addr =
        (registrations.run lb urls).nodes.lookup addr) ∧
      (registrations.run lb other).enabledNodes.Perm (registrations.run lb urls).enabledNodes := by
  have same (addr : String) : (registrations.run lb other).nodes.lookup addr =
      (registrations.run lb urls).nodes.lookup addr := by
    rw [registrations_lookup, registrations_lookup]
    exact if_congr (and_congr_left fun _ => order.mem_iff) rfl rfl
  have first := registrations_wellformed lb other wellformed
  have second := registrations_wellformed lb urls wellformed
  refine ⟨same, (List.perm_ext_iff_of_nodup first.distinct second.distinct).mpr fun addr => ?_⟩
  rw [first.rotation addr, second.rotation addr, same]

structure RegisteredOnce (lb : LoadBalancer) (urls : List String) : Prop where
  invalid : ∀ (index : Nat) nodeUrl, urls[index]? = some nodeUrl → isHttpUrl nodeUrl = false →
    (∃ err, (registrations.outputs lb urls)[index]? = some (.error err)) ∧
      registrations.run lb (urls.take (index + 1)) = registrations.run lb (urls.take index)
  answered : ∀ (index : Nat) nodeUrl, urls[index]? = some nodeUrl → isHttpUrl nodeUrl = true →
    ∃ isNew, (registrations.outputs lb urls)[index]? = some (.ok ⟨nodeUrl, isNew⟩)
  fresh : ∀ nodeUrl ∈ urls, isHttpUrl nodeUrl = true → nodeUrl ∉ lb.nodes →
    ∃! index : Nat, urls[index]? = some nodeUrl ∧
      (registrations.outputs lb urls)[index]? = some (.ok ⟨nodeUrl, true⟩)
  known : ∀ (index : Nat) nodeUrl, urls[index]? = some nodeUrl → isHttpUrl nodeUrl = true →
    nodeUrl ∈ lb.nodes → (registrations.outputs lb urls)[index]? = some (.ok ⟨nodeUrl, false⟩)
  nodes : ∀ addr, addr ∈ (registrations.run lb urls).nodes ↔
    addr ∈ lb.nodes ∨ addr ∈ urls ∧ isHttpUrl addr = true
  serving : ∀ nodeUrl ∈ urls, isHttpUrl nodeUrl = true →
    (∃ node, (registrations.run lb urls).nodes.lookup nodeUrl = some node ∧
        node.enabled = true) ∧
      (registrations.run lb urls).enabledNodes.count nodeUrl = 1

theorem registrations_fresh (lb : LoadBalancer) (urls : List String) (nodeUrl : String)
    (called : nodeUrl ∈ urls) (valid : isHttpUrl nodeUrl = true) (absent : nodeUrl ∉ lb.nodes) :
    ∃! index : Nat, urls[index]? = some nodeUrl ∧
      (registrations.outputs lb urls)[index]? = some (.ok ⟨nodeUrl, true⟩) := by
  -- The first call of the address is the one that inserts it.
  have within := List.idxOf_lt_length_of_mem called
  have here : urls[urls.idxOf nodeUrl]? = some nodeUrl := by
    rw [List.getElem?_eq_getElem within, List.getElem_idxOf within]
  have first : nodeUrl ∉ urls.take (urls.idxOf nodeUrl) := by
    rw [List.mem_take_iff_idxOf_lt called]
    exact Nat.lt_irrefl _
  refine ⟨urls.idxOf nodeUrl, ⟨here, ?_⟩, ?_⟩
  · rw [registrations_reply lb urls _ nodeUrl here valid]
    simp [absent, first]
  · rintro index ⟨there, reply⟩
    rw [registrations_reply lb urls index nodeUrl there valid] at reply
    have alone : nodeUrl ∉ urls.take index := by simpa [absent] using reply
    rw [List.mem_take_iff_idxOf_lt called, Nat.not_lt] at alone
    refine Nat.le_antisymm alone (Nat.le_of_lt_succ ?_)
    rw [← List.mem_take_iff_idxOf_lt called, List.take_add_one, there]
    exact List.mem_append_right _ (List.mem_singleton_self nodeUrl)

theorem registeredOnce (lb : LoadBalancer) (urls : List String) (wellformed : lb.Wellformed) :
    RegisteredOnce lb urls where
  invalid index nodeUrl call invalid := by
    have refused := registerNode_invalid (registrations.run lb (urls.take index)) nodeUrl invalid
    constructor
    · rw [Machine.outputs_getElem?, call, Option.map_some, registrations_step, refused]
      exact ⟨_, rfl⟩
    · rw [List.take_add_one, call, Machine.run_append]
      show (registerNode _ nodeUrl).1 = _
      rw [refused]
  answered index nodeUrl call valid := ⟨_, registrations_reply lb urls index nodeUrl call valid⟩
  fresh := registrations_fresh lb urls
  known index nodeUrl call valid present := by
    rw [registrations_reply lb urls index nodeUrl call valid]
    simp [present]
  nodes := mem_registrations lb urls
  serving nodeUrl called valid := by
    have found := registrations_lookup lb urls nodeUrl
    rw [if_pos ⟨called, valid⟩] at found
    have after := registrations_wellformed lb urls wellformed
    exact ⟨⟨_, found, rfl⟩,
      List.count_eq_one_of_mem after.distinct ((after.rotation nodeUrl).mpr ⟨_, found, rfl⟩)⟩

theorem concurrent_registration (nodeAddrs : List String) (config : CircuitBreakerConfig)
    (distinct : nodeAddrs.Nodup) (history : List Operation) (urls other : List String)
    (order : other.Perm urls) :
    let lb := LoadBalancer.machine.run (.withConfig nodeAddrs config) history
    RegisteredOnce lb urls ∧
      (∀ addr, (registrations.run lb other).nodes.lookup addr =
        (registrations.run lb urls).nodes.lookup addr) ∧
      (registrations.run lb other).enabledNodes.Perm (registrations.run lb urls).enabledNodes :=
  have wellformed := LoadBalancer.run_wellformed nodeAddrs config distinct history
  ⟨registeredOnce _ urls wellformed, registrations_perm _ wellformed urls other order⟩

theorem concurrent_registration_witness :
    let lb := LoadBalancer.machine.run (.withConfig ["http://a"] .default)
      [.disableNode "http://a"]
    let urls := ["http://b", "ftp://c", "http://a", "http://b"]
    RegisteredOnce lb urls ∧
      (∀ addr, (registrations.run lb urls.reverse).nodes.lookup addr =
        (registrations.run lb urls).nodes.lookup addr) ∧
      (registrations.run lb urls.reverse).enabledNodes.Perm
        (registrations.run lb urls).enabledNodes :=
  concurrent_registration ["http://a"] .default (by decide) _ _ _ (List.reverse_perm _)

end MadRpc
