import MadRpc.Server.Denotation
import Mathlib.Data.List.Perm.Basic

set_option autoImplicit false

namespace MadRpc

theorem PropertyKey.inOrder_perm (keys : List PropertyKey) : (inOrder keys).Perm keys := by
  have sorted : (inOrder keys).Perm ((keys.filterMap index?).map .index ++
      keys.filter isString ++ keys.filter isSymbol) :=
    (((List.perm_insertionSort _ _).map _).append_right _).append_right _
  refine sorted.trans ?_
  induction keys with
  | nil => exact .refl _
  | cons key rest ih =>
      have ih := ih (((List.perm_insertionSort _ _).map _).append_right _ |>.append_right _)
      cases key with
      | index position => exact ih.cons _
      | string name => exact (List.perm_middle.append_right _).trans (ih.cons _)
      | symbol id => exact List.perm_middle.trans (ih.cons _)

theorem getOwn_mem {properties : List (PropertyKey × JsProperty)}
    (once : (properties.map Prod.fst).Nodup) {entry : PropertyKey × JsProperty}
    (present : entry ∈ properties) : getOwn properties entry.1 = entry.2.read := by
  have found : properties.lookup entry.1 = some entry.2 := by
    induction properties with
    | nil => cases present
    | cons head rest ih =>
        obtain ⟨new, once⟩ := List.nodup_cons.mp once
        rcases List.mem_cons.mp present with rfl | later
        · exact List.lookup_cons_self
        · have different : entry.1 ≠ head.1 := by
            intro same
            exact new (same ▸ List.mem_map_of_mem later)
          rw [List.lookup_cons, beq_false_of_ne different]
          exact ih once later
  rw [getOwn, found]

section

variable (convert : JsValue Nat → Converted Value)

def ReadsAs (get : PropertyKey → Except String (JsValue Nat)) (key : PropertyKey)
    (member : String × Value) : Prop :=
  key.toStdString = some (.ok member.1) ∧
    ∃ js, get key = .ok js ∧ convert js = pure member.2

theorem membersToJson_reads (get : PropertyKey → Except String (JsValue Nat))
    {keys : List PropertyKey} {members : List (String × Value)}
    (reads : List.Forall₂ (ReadsAs convert get) keys members) (result : List (String × Value)) :
    membersToJson convert get keys result = pure (OrderedMap.insertAll members result) := by
  induction reads generalizing result with
  | nil => rfl
  | @cons key member keys members here _ ih =>
      obtain ⟨name, js, read, converted⟩ := here
      rw [membersToJson, name]
      change (Converted.lift ((get key).mapError _) >>= _) = _
      rw [read]
      change (convert js >>= _) = _
      rw [converted]
      exact ih (OrderedMap.insert member.1 member.2 result)

theorem objectToJson_ordinary {properties : List (PropertyKey × JsProperty)}
    {members : List (String × Value)} (ordered : OrderedMap.Ordered members)
    (reads : List.Forall₂ (ReadsAs convert (getOwn properties)) (properties.map Prod.fst) members) :
    objectToJson convert (.ordinary properties) = pure (.object members) := by
  obtain ⟨listed, reads, perm⟩ :=
    List.perm_comp_forall₂ (PropertyKey.inOrder_perm (properties.map Prod.fst)) reads
  rw [objectToJson, membersToJson_reads convert _ reads, OrderedMap.insertAll_eq _ _ ordered perm]
  rfl

end

def numberRoundTrip (boa : Boa) (number : Number) : Number :=
  match boa.asI32 number.toF64 with
  | some int => .ofInt32 int
  | none => .float number.toF64

theorem Number.isFinite_toF64 (number : Number) (valid : number.Valid) :
    Binary64.isFinite number.toF64 = true := by
  cases number with
  | posInt value => exact Binary64.isFinite_ofUInt64 value
  | negInt value => exact Binary64.isFinite_ofInt64 value
  | float bits => exact valid

variable {boa : Boa}

theorem jsValueToJson_number (heap : JsHeap) (depth : Nat) (number : Number)
    (valid : number.Valid) :
    jsValueToJson boa heap (depth + 1) (.number number.toF64) =
      pure (.number (numberRoundTrip boa number)) := by
  have finite := number.isFinite_toF64 valid
  unfold numberRoundTrip
  cases int : boa.asI32 number.toF64 with
  | some int' =>
      simp [jsValueToJson, JsValue.isUndefined, JsValue.isNull, JsValue.asBoolean,
        JsValue.asI32, JsValue.asNumber, int]
  | none =>
      simp [jsValueToJson, JsValue.isUndefined, JsValue.isNull, JsValue.asBoolean,
        JsValue.asI32, JsValue.asNumber, int, Number.fromF64, finite]

theorem jsValueToJson_object (heap : JsHeap) (depth address : Nat) :
    jsValueToJson boa heap (depth + 1) (.object address) =
      objectToJson (jsValueToJson boa heap depth) (heap.objects address) :=
  rfl

namespace Value

variable (change : Number → Number)

theorem keys_mapMembers (members : List (String × Value)) :
    (mapMembers change members).map Prod.fst = members.map Prod.fst := by
  induction members with
  | nil => rfl
  | cons entry rest ih => exact congrArg (entry.1 :: ·) ih

end Value

theorem DenotesMembers.keys {heap : JsHeap} {low : Nat} {members : List (String × Value)}
    {slots : List (PropertyKey × JsProperty)}
    (denotes : DenotesMembers boa heap members low slots) :
    slots.map Prod.fst = (members.map Prod.fst).map (propertyKey boa) := by
  induction members generalizing slots with
  | nil =>
      rw [DenotesMembers] at denotes
      rw [denotes]
      rfl
  | cons entry rest ih =>
      rw [DenotesMembers] at denotes
      obtain ⟨js, others, rfl, -, tail⟩ := denotes
      exact congrArg (propertyKey boa entry.1 :: ·) (ih tail)

mutual

theorem jsValueToJson_denotes {heap : JsHeap} {low : Nat} (value : Value) (js : JsValue Nat)
    (valid : value.Valid) (denotes : Denotes boa heap value low js) (depth : Nat)
    (deep : value.depth ≤ depth) :
    jsValueToJson boa heap depth js = pure (value.mapNumbers (numberRoundTrip boa)) := by
  cases depth with
  | zero => cases value <;> exact absurd deep (Nat.not_succ_le_zero _)
  | succ depth =>
      cases value with
      | null | bool _ | string _ =>
          rw [Denotes] at denotes
          rw [denotes]
          rfl
      | number leaf =>
          rw [Denotes] at denotes
          rw [denotes]
          exact jsValueToJson_number heap depth leaf valid
      | array elements =>
          rw [Denotes] at denotes
          obtain ⟨address, slots, -, -, rfl, object, inner⟩ := denotes
          rw [jsValueToJson_object, object, objectToJson,
            elementsToJson_denotes elements slots valid inner depth (Nat.le_of_succ_le_succ deep) 0]
          rfl
      | object members =>
          rw [Denotes] at denotes
          obtain ⟨address, slots, -, -, rfl, object, inner⟩ := denotes
          have ordered : OrderedMap.Ordered (Value.mapMembers (numberRoundTrip boa) members) := by
            rw [OrderedMap.Ordered, Value.keys_mapMembers]
            exact valid.1
          have once : (slots.map Prod.fst).Nodup := by
            have names : (members.map Prod.fst).Nodup := valid.1.imp fun before => before.ne
            rw [inner.keys]
            exact names.map fun _ _ => propertyKey_injective
          rw [jsValueToJson_object, object]
          exact objectToJson_ordinary _ ordered
            (members_read members slots valid.2 inner depth (Nat.le_of_succ_le_succ deep)
              (fun _ => getOwn_mem once))

theorem elementsToJson_denotes {heap : JsHeap} {low : Nat} (elements : List Value)
    (slots : List JsProperty) (valid : Value.ElementsValid elements)
    (denotes : DenotesElements boa heap elements low slots) (depth : Nat)
    (deep : Value.elementsDepth elements ≤ depth) (index : Nat) :
    elementsToJson (jsValueToJson boa heap depth) slots index =
      pure (Value.mapElements (numberRoundTrip boa) elements) := by
  cases elements with
  | nil =>
      rw [DenotesElements] at denotes
      rw [denotes]
      rfl
  | cons element rest =>
      rw [DenotesElements] at denotes
      obtain ⟨js, others, rfl, here, tail⟩ := denotes
      obtain ⟨deep, deeper⟩ := Nat.max_le.mp deep
      rw [elementsToJson]
      change (jsValueToJson boa heap depth js >>= _) = _
      rw [jsValueToJson_denotes element js valid.1 here depth deep]
      change (elementsToJson (jsValueToJson boa heap depth) others (index + 1) >>= _) = _
      rw [elementsToJson_denotes rest others valid.2 tail depth deeper (index + 1)]
      rfl

theorem members_read {heap : JsHeap} {low : Nat} (members : List (String × Value))
    (slots : List (PropertyKey × JsProperty)) (valid : Value.MembersValid members)
    (denotes : DenotesMembers boa heap members low slots) (depth : Nat)
    (deep : Value.membersDepth members ≤ depth) {get : PropertyKey → Except String (JsValue Nat)}
    (own : ∀ entry ∈ slots, get entry.1 = entry.2.read) :
    List.Forall₂ (ReadsAs (jsValueToJson boa heap depth) get) (slots.map Prod.fst)
      (Value.mapMembers (numberRoundTrip boa) members) := by
  cases members with
  | nil =>
      rw [DenotesMembers] at denotes
      rw [denotes]
      exact .nil
  | cons entry rest =>
      obtain ⟨name, member⟩ := entry
      rw [DenotesMembers] at denotes
      obtain ⟨js, others, rfl, here, tail⟩ := denotes
      obtain ⟨deep, deeper⟩ := Nat.max_le.mp deep
      refine .cons ⟨propertyKey_text name, js, own _ List.mem_cons_self, ?_⟩ ?_
      · exact jsValueToJson_denotes member js valid.1 here depth deep
      · exact members_read rest others valid.2 tail depth deeper
          fun entry present => own entry (List.mem_cons_of_mem _ present)

end

theorem json_round_trip (boa : Boa) (json : Value) (valid : json.Valid) (heap : JsHeap) :
    ∃ js later, jsonToJsValue boa json heap = .ok (js, later) ∧
      ∀ depth, json.depth ≤ depth →
        (jsValueToJson boa later depth js).run =
          some (.ok (json.mapNumbers (numberRoundTrip boa))) := by
  obtain ⟨js, later, converted, _, denotes⟩ := jsonToJsValue_denotes json valid heap
  exact ⟨js, later, converted, jsValueToJson_denotes json js valid denotes⟩

def specialKeys : Value :=
  .object [("", .null), ("0", .array [.number (.posInt 1), .string "x"]),
    ("__proto__", .bool true)]

-- The engine on the one number and the one index of that tree.
def boaOnSpecialKeys : Boa where
  asI32 bits := if bits = 4607182418800017408 then some 1 else none
  asIndex name := if name = "0" then some 0 else none
  asIndex_prints name index found := by
    split at found
    next same =>
      cases found
      exact same.symm
    next => cases found
  typeError := "TypeError: not an object"

theorem json_round_trip_witness :
    ∃ js later,
      jsonToJsValue boaOnSpecialKeys specialKeys ⟨fun _ => .ordinary [], 0⟩ = .ok (js, later) ∧
        (jsValueToJson boaOnSpecialKeys later 3 js).run = some (.ok specialKeys) := by
  have valid : specialKeys.Valid := by
    refine ⟨?_, trivial, ⟨trivial, trivial, trivial⟩, trivial, trivial⟩
    unfold OrderedMap.Ordered
    decide
  obtain ⟨js, later, converted, back⟩ :=
    json_round_trip boaOnSpecialKeys specialKeys valid ⟨fun _ => .ordinary [], 0⟩
  exact ⟨js, later, converted, back 3 (Nat.le_refl 3)⟩

end MadRpc
