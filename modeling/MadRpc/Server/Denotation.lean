import MadRpc.Server.Conversions

set_option autoImplicit false

namespace MadRpc

structure JsHeap.Keeps (kept : Nat → Prop) (heap later : JsHeap) : Prop where
  grown : heap.next ≤ later.next
  same : ∀ address, kept address → address < heap.next →
    later.objects address = heap.objects address

namespace JsHeap.Keeps

variable {kept : Nat → Prop} {heap between later : JsHeap}

theorem refl : Keeps kept heap heap where
  grown := Nat.le_refl _
  same _ _ _ := rfl

theorem trans (first : Keeps kept heap between) (second : Keeps kept between later) :
    Keeps kept heap later where
  grown := Nat.le_trans first.grown second.grown
  same address keep old :=
    (second.same address keep (Nat.lt_of_lt_of_le old first.grown)).trans
      (first.same address keep old)

theorem mono {fewer : Nat → Prop} (keeps : Keeps kept heap later)
    (subset : ∀ address, fewer address → kept address) : Keeps fewer heap later where
  grown := keeps.grown
  same address keep old := keeps.same address (subset address keep) old

theorem write (address : Nat) (object : JsObject) (spared : ∀ other, kept other → other ≠ address) :
    Keeps kept heap (heap.write address object) where
  grown := Nat.le_refl _
  same other keep _ := objects_write_of_ne object heap (spared other keep)

theorem written {address : Nat} {object : JsObject}
    (keeps : Keeps (· ≠ address) (heap.write address object) later) :
    Keeps (· ≠ address) heap later :=
  (write address object fun _ different => different).trans keeps

theorem beyond {address bound : Nat} (keeps : Keeps (· ≠ address) heap later)
    (below : address < bound) : Keeps (bound ≤ ·) heap later :=
  keeps.mono fun _ inside => Nat.ne_of_gt (Nat.lt_of_lt_of_le below inside)

theorem inside {high address : Nat} (keeps : Keeps (high ≤ ·) heap later)
    (above : high ≤ address) : Keeps (address + 1 ≤ ·) heap later :=
  keeps.mono fun _ inner => Nat.le_trans above (Nat.le_of_succ_le inner)

-- A fresh object that is then written to takes nothing from the old ones.
theorem fresh (object : JsObject)
    (keeps : Keeps (· ≠ heap.next) (heap.allocate object) later) :
    Keeps (fun _ => True) heap later where
  grown := Nat.le_trans (Nat.le_succ _) keeps.grown
  same address _ old := by
    have different : address ≠ heap.next := Nat.ne_of_lt old
    rw [keeps.same address different (Nat.lt_succ_of_lt old)]
    exact objects_write_of_ne object heap different

end JsHeap.Keeps

section

variable (boa : Boa) (heap : JsHeap)

mutual

/-- The objects of the value lie at `low` or above, those below an object above that object. -/
def Denotes : Value → Nat → JsValue Nat → Prop
  | .null, _, js => js = .null
  | .bool value, _, js => js = .bool value
  | .number leaf, _, js => js = .number leaf.toF64
  | .string text, _, js => js = .string (.text text)
  | .array elements, low, js =>
      ∃ address slots, low ≤ address ∧ address < heap.next ∧ js = .object address ∧
        heap.objects address = .array slots ∧ DenotesElements elements (address + 1) slots
  | .object members, low, js =>
      ∃ address slots, low ≤ address ∧ address < heap.next ∧ js = .object address ∧
        heap.objects address = .ordinary slots ∧ DenotesMembers members (address + 1) slots

def DenotesElements : List Value → Nat → List JsProperty → Prop
  | [], _, slots => slots = []
  | element :: rest, low, slots =>
      ∃ js others, slots = .data js :: others ∧ Denotes element low js ∧
        DenotesElements rest low others

def DenotesMembers : List (String × Value) → Nat → List (PropertyKey × JsProperty) → Prop
  | [], _, slots => slots = []
  | (key, member) :: rest, low, slots =>
      ∃ js others, slots = (propertyKey boa key, .data js) :: others ∧ Denotes member low js ∧
        DenotesMembers rest low others

end

end

variable {boa : Boa}

mutual

theorem Denotes.keeps {heap later : JsHeap} {low high : Nat} (value : Value) (js : JsValue Nat)
    (denotes : Denotes boa heap value high js) (above : low ≤ high)
    (kept : JsHeap.Keeps (high ≤ ·) heap later) : Denotes boa later value low js := by
  cases value with
  | null | bool _ | number _ | string _ => simpa only [Denotes] using denotes
  | array elements =>
      rw [Denotes] at denotes ⊢
      obtain ⟨address, slots, beyond, old, same, object, inner⟩ := denotes
      refine ⟨address, slots, Nat.le_trans above beyond, Nat.lt_of_lt_of_le old kept.grown, same,
        (kept.same address beyond old).trans object, ?_⟩
      exact DenotesElements.keeps elements slots inner (Nat.le_refl _) (kept.inside beyond)
  | object members =>
      rw [Denotes] at denotes ⊢
      obtain ⟨address, slots, beyond, old, same, object, inner⟩ := denotes
      refine ⟨address, slots, Nat.le_trans above beyond, Nat.lt_of_lt_of_le old kept.grown, same,
        (kept.same address beyond old).trans object, ?_⟩
      exact DenotesMembers.keeps members slots inner (Nat.le_refl _) (kept.inside beyond)

theorem DenotesElements.keeps {heap later : JsHeap} {low high : Nat} (elements : List Value)
    (slots : List JsProperty) (denotes : DenotesElements boa heap elements high slots)
    (above : low ≤ high) (kept : JsHeap.Keeps (high ≤ ·) heap later) :
    DenotesElements boa later elements low slots := by
  cases elements with
  | nil => simpa only [DenotesElements] using denotes
  | cons element rest =>
      rw [DenotesElements] at denotes ⊢
      obtain ⟨js, others, same, here, tail⟩ := denotes
      exact ⟨js, others, same, Denotes.keeps element js here above kept,
        DenotesElements.keeps rest others tail above kept⟩

theorem DenotesMembers.keeps {heap later : JsHeap} {low high : Nat}
    (members : List (String × Value)) (slots : List (PropertyKey × JsProperty))
    (denotes : DenotesMembers boa heap members high slots) (above : low ≤ high)
    (kept : JsHeap.Keeps (high ≤ ·) heap later) :
    DenotesMembers boa later members low slots := by
  cases members with
  | nil => simpa only [DenotesMembers] using denotes
  | cons entry rest =>
      obtain ⟨key, member⟩ := entry
      rw [DenotesMembers] at denotes ⊢
      obtain ⟨js, others, same, here, tail⟩ := denotes
      exact ⟨js, others, same, Denotes.keeps member js here above kept,
        DenotesMembers.keeps rest others tail above kept⟩

end

theorem propertyKey_text (name : String) :
    (propertyKey boa name).toStdString = some (.ok name) := by
  unfold propertyKey
  split
  next index found => exact congrArg (some ∘ Except.ok) (boa.asIndex_prints name index found)
  next => rfl

theorem propertyKey_injective {first second : String}
    (same : propertyKey boa first = propertyKey boa second) : first = second := by
  have text := congrArg PropertyKey.toStdString same
  rw [propertyKey_text, propertyKey_text] at text
  exact Except.ok.inj (Option.some.inj text)

theorem JsHeap.push_array {heap : JsHeap} {array : Nat} {elements : List JsProperty}
    (held : heap.objects array = .array elements) (value : JsValue Nat) :
    heap.push boa array value = .ok (heap.write array (.array (elements ++ [.data value]))) := by
  rw [push, held]

theorem JsHeap.createDataProperty_fresh {heap : JsHeap} {object : Nat}
    {properties : List (PropertyKey × JsProperty)}
    (held : heap.objects object = .ordinary properties) {key : PropertyKey}
    (fresh : key ∉ properties.map Prod.fst) (value : JsValue Nat) :
    heap.createDataPropertyOrThrow boa object key value =
      .ok (heap.write object (.ordinary (properties ++ [(key, .data value)]))) := by
  rw [createDataPropertyOrThrow, held]
  simp only [defineProperty, if_neg fresh]

mutual

theorem jsonToJsValue_denotes (value : Value) (valid : value.Valid) (heap : JsHeap) :
    ∃ js later, jsonToJsValue boa value heap = .ok (js, later) ∧
      JsHeap.Keeps (fun _ => True) heap later ∧ Denotes boa later value heap.next js := by
  cases value with
  | null | bool _ | number _ | string _ => exact ⟨_, heap, rfl, .refl, rfl⟩
  | array elements =>
      obtain ⟨later, slots, filled, kept, object, inner⟩ :=
        pushElements_denotes elements valid 0 heap.next [] (heap.allocate (.array []))
          (JsHeap.objects_write _ _ _) (Nat.lt_succ_self _)
      refine ⟨.object heap.next, later, ?_, .fresh _ kept, ?_⟩
      · rw [jsonToJsValue, filled]
        rfl
      · exact ⟨heap.next, slots, Nat.le_refl _, kept.grown, rfl, object, inner⟩
  | object members =>
      obtain ⟨ordered, valid⟩ := valid
      have once : (members.map Prod.fst).Nodup := ordered.imp fun before => before.ne
      obtain ⟨later, slots, filled, kept, object, inner⟩ :=
        setMembers_denotes members valid once heap.next [] (heap.allocate (.ordinary []))
          (JsHeap.objects_write _ _ _) (Nat.lt_succ_self _) (fun _ _ => List.not_mem_nil)
      refine ⟨.object heap.next, later, ?_, .fresh _ kept, ?_⟩
      · rw [jsonToJsValue, filled]
        rfl
      · exact ⟨heap.next, slots, Nat.le_refl _, kept.grown, rfl, object, inner⟩

theorem pushElements_denotes (elements : List Value) (valid : Value.ElementsValid elements)
    (index array : Nat) (done : List JsProperty) (heap : JsHeap)
    (held : heap.objects array = .array done) (old : array < heap.next) :
    ∃ later slots, pushElements boa array elements index heap = .ok later ∧
      JsHeap.Keeps (· ≠ array) heap later ∧ later.objects array = .array (done ++ slots) ∧
      DenotesElements boa later elements (array + 1) slots := by
  cases elements with
  | nil => exact ⟨heap, [], rfl, .refl, by rwa [List.append_nil], rfl⟩
  | cons element rest =>
      obtain ⟨js, converted, done', kept, denotes⟩ :=
        jsonToJsValue_denotes element valid.1 heap
      have held' : converted.objects array = .array done :=
        (kept.same array trivial old).trans held
      obtain ⟨later, slots, filled, kept', object, inner⟩ :=
        pushElements_denotes rest valid.2 (index + 1) array (done ++ [.data js])
          (converted.write array (.array (done ++ [.data js]))) (JsHeap.objects_write _ _ _)
          (Nat.lt_of_lt_of_le old kept.grown)
      -- The array itself is written to between the conversion of an element and the end.
      have spared : JsHeap.Keeps (· ≠ array) converted later := kept'.written
      refine ⟨later, .data js :: slots, ?_, (kept.mono fun _ _ => trivial).trans spared, ?_, ?_⟩
      · rw [pushElements, done']
        change (JsHeap.push boa array js converted).mapError _ >>= _ = _
        rw [JsHeap.push_array held' js]
        exact filled
      · rw [object, List.append_assoc]
        rfl
      · exact ⟨js, slots, rfl, denotes.keeps element js old (spared.beyond old), inner⟩

theorem setMembers_denotes (members : List (String × Value)) (valid : Value.MembersValid members)
    (once : (members.map Prod.fst).Nodup) (object : Nat)
    (done : List (PropertyKey × JsProperty)) (heap : JsHeap)
    (held : heap.objects object = .ordinary done) (old : object < heap.next)
    (fresh : ∀ name ∈ members.map Prod.fst, propertyKey boa name ∉ done.map Prod.fst) :
    ∃ later slots, setMembers boa object members heap = .ok later ∧
      JsHeap.Keeps (· ≠ object) heap later ∧ later.objects object = .ordinary (done ++ slots) ∧
      DenotesMembers boa later members (object + 1) slots := by
  cases members with
  | nil => exact ⟨heap, [], rfl, .refl, by rwa [List.append_nil], rfl⟩
  | cons entry rest =>
      obtain ⟨name, member⟩ := entry
      obtain ⟨new, once⟩ := List.nodup_cons.mp once
      obtain ⟨js, converted, done', kept, denotes⟩ :=
        jsonToJsValue_denotes member valid.1 heap
      have held' : converted.objects object = .ordinary done :=
        (kept.same object trivial old).trans held
      let properties := done ++ [(propertyKey boa name, .data js)]
      have fresh' : ∀ later ∈ rest.map Prod.fst,
          propertyKey boa later ∉ properties.map Prod.fst := by
        intro later present repeated
        rw [List.map_append, List.mem_append] at repeated
        rcases repeated with before | here
        · exact fresh later (List.mem_cons_of_mem _ present) before
        · exact new (propertyKey_injective (List.mem_singleton.mp here) ▸ present)
      obtain ⟨later, slots, filled, kept', object', inner⟩ :=
        setMembers_denotes rest valid.2 once object properties
          (converted.write object (.ordinary properties)) (JsHeap.objects_write _ _ _)
          (Nat.lt_of_lt_of_le old kept.grown) fresh'
      have spared : JsHeap.Keeps (· ≠ object) converted later := kept'.written
      refine ⟨later, (propertyKey boa name, .data js) :: slots, ?_,
        (kept.mono fun _ _ => trivial).trans spared, ?_, ?_⟩
      · rw [setMembers, done']
        change (converted.createDataPropertyOrThrow boa object _ js).mapError _ >>= _ = _
        rw [JsHeap.createDataProperty_fresh held' (fresh name List.mem_cons_self) js]
        exact filled
      · rw [object', List.append_assoc]
        rfl
      · exact ⟨js, slots, rfl, denotes.keeps member js old (spared.beyond old), inner⟩

end

end MadRpc
