import Mathlib.Data.Set.Finite.Lattice
import MadRpc.Server.ConversionPaths
import MadRpc.Server.IntegerEcho

set_option autoImplicit false

namespace MadRpc

def JsHeap.Closed (heap : JsHeap) : Prop :=
  ∀ address < heap.next, ∀ other, .ok (.object other) ∈ (heap.objects address).reads →
    other < heap.next

def JsHeap.Holds (heap : JsHeap) (value : JsValue Nat) : Prop :=
  ∀ address, value = .object address → address < heap.next

def JsHeap.references (heap : JsHeap) : Set (JsValue Nat) :=
  {value | ∃ address < heap.next, .ok value ∈ (heap.objects address).reads}

theorem JsHeap.references_finite (heap : JsHeap) : heap.references.Finite := by
  have each (address : Nat) : {value | .ok value ∈ (heap.objects address).reads}.Finite :=
    (List.finite_toSet (heap.objects address).reads).preimage
      fun _ _ _ _ same => Except.ok.inj same
  have whole : heap.references = ⋃ address ∈ {address | address < heap.next},
      {value | .ok value ∈ (heap.objects address).reads} := by
    ext value
    simp [references]
  rw [whole]
  exact (Set.finite_lt_nat heap.next).biUnion fun address _ => each address

theorem mem_resultReads {boa : Boa} {heap : JsHeap} {value child : JsValue Nat}
    (read : .ok child ∈ (resultTraversal boa heap).reads value) :
    ∃ address, value = .object address ∧ .ok child ∈ (heap.objects address).reads := by
  cases value with
  | object address => exact ⟨address, rfl, read⟩
  | undefined | null | bool _ | number _ | string _ | other =>
      obtain ⟨err, -, same⟩ := List.mem_map.mp read
      cases same

theorem reached_finite (boa : Boa) {heap : JsHeap} (closed : heap.Closed) {value : JsValue Nat}
    (held : heap.Holds value) :
    {last | Relation.ReflTransGen (resultTraversal boa heap).Visits value last}.Finite := by
  -- The value and what the heap refers to, without the addresses that are not allocated.
  let nodes := {node | heap.Holds node ∧ node ∈ insert value heap.references}
  have finite : nodes.Finite := (heap.references_finite.insert value).subset fun _ => And.right
  refine finite.subset fun last reached => Traversal.reached_mem ?_ ⟨held, .inl rfl⟩ reached
  rintro node ⟨held, -⟩ child read
  obtain ⟨address, rfl, read⟩ := mem_resultReads read
  have allocated := held address rfl
  exact ⟨fun other same => closed address allocated other (same ▸ read),
    .inr ⟨address, allocated, read⟩⟩

/-- The conversion returns exactly if it comes to no object that it would come back to: a value is
come to once all that is read before it has been converted. -/
theorem conversion_returns_iff (boa : Boa) (heap : JsHeap) (closed : heap.Closed)
    (value : JsValue Nat) (held : heap.Holds value) :
    (∃ depth result, (jsValueToJson boa heap depth value).run = some result) ↔
      ¬ ∃ object, Relation.ReflTransGen (resultTraversal boa heap).Visits value object ∧
        Relation.TransGen (resultTraversal boa heap).Visits object object := by
  simp only [jsValueToJson_visit]
  exact Traversal.returns_iff (reached_finite boa closed held)

-- One object twice, which is no cycle.
def sharing : JsHeap where
  objects
    | 0 => .array [.data (.object 1), .data (.object 1)]
    | _ => .array []
  next := 2

theorem conversion_returns_iff_witness :
    (∃ depth result, (jsValueToJson exactBoa sharing depth (.object 0)).run = some result) ↔
      ¬ ∃ object,
        Relation.ReflTransGen (resultTraversal exactBoa sharing).Visits (.object 0) object ∧
          Relation.TransGen (resultTraversal exactBoa sharing).Visits object object := by
  refine conversion_returns_iff exactBoa sharing ?_ (.object 0) ?_
  · intro address allocated other read
    rcases address with _ | address
    · have listed : Except.ok (JsValue.object other) ∈
          [(.ok (.object 1) : Except MadrpcError (JsValue Nat)), .ok (.object 1)] := read
      obtain rfl : other = 1 := by simpa using listed
      decide
    · cases read
  · rintro address ⟨⟩
    decide

def selfReferring : JsHeap := ⟨fun _ => .array [.data (.object 0)], 1⟩

/-- A function, and its prototype with the constructor that leads back to it. -/
def functionObject : JsHeap where
  objects
    | 0 => .ordinary [(.string (.text "length"), .data (.number 0)),
        (.string (.text "name"), .data (.string (.text "compute"))),
        (.string (.text "prototype"), .data (.object 1))]
    | _ => .ordinary [(.string (.text "constructor"), .data (.object 0))]
  next := 2

theorem clean_of_leaf {boa : Boa} {heap : JsHeap} {value : JsValue Nat}
    (leaf : value.asObject = none) (representable : value.unrepresentable boa = none) :
    (resultTraversal boa heap).Clean value := by
  have nothing : (resultTraversal boa heap).reads value = [] := by
    cases value with
    | object address => cases leaf
    | undefined | null | bool _ | number _ | string _ | other =>
        exact congrArg (fun error => (Option.toList error).map Except.error) representable
  rw [Traversal.clean_iff, nothing]
  exact nofun

theorem clean_number {boa : Boa} {heap : JsHeap} {bits : UInt64}
    (finite : Binary64.isFinite bits = true) : (resultTraversal boa heap).Clean (.number bits) :=
  clean_of_leaf rfl (if_neg fun infinite => by simp [finite] at infinite)

theorem never_returns_of_cycle {boa : Boa} {heap : JsHeap} {value : JsValue Nat}
    (cycle : Relation.TransGen (resultTraversal boa heap).Visits value value) :
    ¬ ∃ depth result, (jsValueToJson boa heap depth value).run = some result := by
  simp only [jsValueToJson_visit]
  exact fun returns => Traversal.Returns.not_cyclic returns cycle

theorem cycles_never_return :
    (selfReferring.Closed ∧ ¬ ∃ depth result,
        (jsValueToJson exactBoa selfReferring depth (.object 0)).run = some result) ∧
      functionObject.Closed ∧ ¬ ∃ depth result,
        (jsValueToJson exactBoa functionObject depth (.object 0)).run = some result := by
  refine ⟨⟨?_, never_returns_of_cycle (.single ⟨[], [], rfl, nofun⟩)⟩, ?_, ?_⟩
  · intro address _ other read
    have listed : Except.ok (JsValue.object other) ∈
        [(.ok (.object 0) : Except MadrpcError (JsValue Nat))] := read
    obtain rfl : other = 0 := by simpa using listed
    decide
  · intro address _ other read
    rcases address with _ | address
    · have listed : Except.ok (JsValue.object other) ∈
          [(.ok (.number 0) : Except MadrpcError (JsValue Nat)), .ok (.string (.text "compute")),
            .ok (.object 1)] := read
      obtain rfl : other = 1 := by simpa using listed
      decide
    · have listed : Except.ok (JsValue.object other) ∈
          [(.ok (.object 0) : Except MadrpcError (JsValue Nat))] := read
      obtain rfl : other = 0 := by simpa using listed
      decide
  · have down : (resultTraversal exactBoa functionObject).Visits (.object 0) (.object 1) := by
      refine ⟨[.ok (.number 0), .ok (.string (.text "compute"))], [], rfl, ?_⟩
      exact List.forall_mem_cons.mpr ⟨clean_number (by decide), List.forall_mem_cons.mpr
        ⟨clean_of_leaf rfl rfl, nofun⟩⟩
    have up : (resultTraversal exactBoa functionObject).Visits (.object 1) (.object 0) :=
      ⟨[], [], rfl, nofun⟩
    exact never_returns_of_cycle (.tail (.single down) up)

end MadRpc
