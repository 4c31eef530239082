import MadRpc.Server.ConversionRoundTrip

set_option autoImplicit false

namespace MadRpc

namespace Value

variable (holds : Number → Prop)

mutual

def AllNumbers : Value → Prop
  | .number leaf => holds leaf
  | .array elements => AllElements elements
  | .object members => AllMembers members
  | .null | .bool _ | .string _ => True

def AllElements : List Value → Prop
  | [] => True
  | element :: rest => element.AllNumbers ∧ AllElements rest

def AllMembers : List (String × Value) → Prop
  | [] => True
  | (_, member) :: rest => member.AllNumbers ∧ AllMembers rest

end

variable {holds}

mutual

theorem AllNumbers.mapNumbers_iff {change : Number → Number} {kept : Number → Prop} (value : Value)
    (valid : value.Valid) (all : value.AllNumbers holds)
    (same : ∀ leaf, leaf.Valid → holds leaf → (change leaf = leaf ↔ kept leaf)) :
    value.mapNumbers change = value ↔ value.AllNumbers kept := by
  cases value with
  | null | bool _ | string _ => exact iff_of_true rfl trivial
  | number leaf =>
      rw [mapNumbers, number.injEq, AllNumbers]
      exact same leaf valid all
  | array elements =>
      rw [mapNumbers, array.injEq, AllNumbers]
      exact AllElements.mapElements_iff elements valid all same
  | object members =>
      rw [mapNumbers, object.injEq, AllNumbers]
      exact AllMembers.mapMembers_iff members valid.2 all same

theorem AllElements.mapElements_iff {change : Number → Number} {kept : Number → Prop}
    (elements : List Value) (valid : ElementsValid elements) (all : AllElements holds elements)
    (same : ∀ leaf, leaf.Valid → holds leaf → (change leaf = leaf ↔ kept leaf)) :
    mapElements change elements = elements ↔ AllElements kept elements := by
  cases elements with
  | nil => exact iff_of_true rfl trivial
  | cons element rest =>
      rw [mapElements, List.cons.injEq, AllElements]
      exact and_congr (AllNumbers.mapNumbers_iff element valid.1 all.1 same)
        (AllElements.mapElements_iff rest valid.2 all.2 same)

theorem AllMembers.mapMembers_iff {change : Number → Number} {kept : Number → Prop}
    (members : List (String × Value)) (valid : MembersValid members)
    (all : AllMembers holds members)
    (same : ∀ leaf, leaf.Valid → holds leaf → (change leaf = leaf ↔ kept leaf)) :
    mapMembers change members = members ↔ AllMembers kept members := by
  cases members with
  | nil => exact iff_of_true rfl trivial
  | cons entry rest =>
      obtain ⟨key, member⟩ := entry
      rw [mapMembers, List.cons.injEq, Prod.mk.injEq, AllMembers]
      exact and_congr ((and_iff_right rfl).trans
        (AllNumbers.mapNumbers_iff member valid.1 all.1 same))
        (AllMembers.mapMembers_iff rest valid.2 all.2 same)

end

end Value

/-- A number is answered with an `i32` exactly if it is one. -/
def Boa.ExactI32 (boa : Boa) : Prop :=
  ∀ bits int, boa.asI32 bits = some int ↔
    Binary64.isFinite bits = true ∧ Binary64.IsInteger bits int.toInt

namespace Number

def int? : Number → Option Int
  | .posInt value => some value.toNat
  | .negInt value => some value.toInt
  | .float _ => none

def ExactInteger (number : Number) : Prop :=
  ∃ int ∈ number.int?, int.natAbs ≤ Binary64.exactBound

def InI32 (number : Number) : Prop :=
  ∃ int ∈ number.int?, -2147483648 ≤ int ∧ int < 2147483648

theorem isInteger_toF64 {number : Number} {int : Int} (integer : number.int? = some int)
    (exact : int.natAbs ≤ Binary64.exactBound) : Binary64.IsInteger number.toF64 int := by
  cases number with
  | posInt value =>
      cases integer
      exact Binary64.isInteger_ofUInt64 value exact
  | negInt value =>
      cases integer
      exact Binary64.isInteger_ofInt64 value exact
  | float bits => cases integer

theorem ofInt32_of_int? {number : Number} (valid : number.Valid) {int32 : Int32}
    (integer : number.int? = some int32.toInt) : ofInt32 int32 = number := by
  cases number with
  | posInt value =>
      have same : (value.toNat : Int) = int32.toInt := Option.some.inj integer
      rw [ofInt32, if_pos (by omega), ← same, Int.toNat_natCast, UInt64.ofNat_toNat]
  | negInt value =>
      have same : value.toInt = int32.toInt := Option.some.inj integer
      have negative : value.toInt < 0 := valid
      rw [ofInt32, if_neg (by omega)]
      exact congrArg negInt (Int64.toInt_inj.mp (by rw [Int32.toInt_toInt64, same]))
  | float bits => cases integer

end Number

theorem numberRoundTrip_iff {boa : Boa} (exactly : boa.ExactI32) {number : Number}
    (valid : number.Valid) (integer : number.ExactInteger) :
    numberRoundTrip boa number = number ↔ number.InI32 := by
  obtain ⟨int, is, exact⟩ := integer
  have finite := number.isFinite_toF64 valid
  have value := Number.isInteger_toF64 is exact
  unfold numberRoundTrip
  cases answer : boa.asI32 number.toF64 with
  | some int32 =>
      obtain ⟨-, same⟩ := (exactly _ _).mp answer
      obtain rfl := same.unique value
      exact iff_of_true (Number.ofInt32_of_int? valid is)
        ⟨_, is, int32.le_toInt, int32.toInt_lt⟩
  | none =>
      refine iff_of_false ?_ ?_
      · intro same
        rw [← same] at is
        cases is
      · rintro ⟨other, is', low, high⟩
        obtain rfl := Option.some.inj (is.symm.trans is')
        have read : (Int32.ofInt int).toInt = int := Int32.toInt_ofInt_of_le low high
        have found := (exactly number.toF64 (Int32.ofInt int)).mpr
          ⟨finite, by rwa [read]⟩
        rw [answer] at found
        cases found

def Echoes (boa : Boa) (heap : JsHeap) (json : Value) : Prop :=
  ∃ js later, jsonToJsValue boa json heap = .ok (js, later) ∧
    ∀ depth, json.depth ≤ depth → (jsValueToJson boa later depth js).run = some (.ok json)

theorem echoes_iff {boa : Boa} (json : Value) (valid : json.Valid) (heap : JsHeap) :
    Echoes boa heap json ↔ json.mapNumbers (numberRoundTrip boa) = json := by
  obtain ⟨js, later, converted, -, denotes⟩ := @jsonToJsValue_denotes boa json valid heap
  have back := jsValueToJson_denotes json js valid denotes
  constructor
  · rintro ⟨js', later', converted', echoed⟩
    rw [converted] at converted'
    cases converted'
    have same := (echoed json.depth le_rfl).symm.trans
      (congrArg ExceptT.run (back json.depth le_rfl))
    exact (Except.ok.inj (Option.some.inj same)).symm
  · intro same
    refine ⟨js, later, converted, fun depth deep => ?_⟩
    rw [back depth deep, same]
    rfl

theorem integer_echo_iff (boa : Boa) (exactly : boa.ExactI32) (json : Value) (valid : json.Valid)
    (integers : json.AllNumbers Number.ExactInteger) (heap : JsHeap) :
    Echoes boa heap json ↔ json.AllNumbers Number.InI32 := by
  rw [echoes_iff json valid heap]
  exact Value.AllNumbers.mapNumbers_iff json valid integers
    fun leaf => numberRoundTrip_iff exactly

def exactBoa : Boa where
  asI32 bits :=
    let int := Binary64.scaled bits / Binary64.unitsInOne
    if Binary64.isFinite bits = true ∧ Binary64.IsInteger bits int ∧ -2147483648 ≤ int ∧
        int < 2147483648 then some (Int32.ofInt int)
    else none
  asIndex _ := none
  asIndex_prints := nofun
  typeError := "TypeError: not an object"

theorem exactBoa_infinite {bits : UInt64} (infinite : Binary64.isFinite bits = false) :
    exactBoa.asI32 bits = none := by
  simp only [exactBoa, infinite, Bool.false_eq_true, false_and, if_false]

theorem exactBoa_exactI32 : exactBoa.ExactI32 := by
  intro bits int32
  simp only [exactBoa]
  constructor
  · intro answer
    split at answer
    next integer =>
      obtain ⟨finite, is, low, high⟩ := integer
      cases answer
      rw [Int32.toInt_ofInt_of_le low high]
      exact ⟨finite, is⟩
    next => cases answer
  · rintro ⟨finite, is⟩
    have units : (Binary64.unitsInOne : Int) ≠ 0 := Int.natCast_ne_zero.mpr (by decide +kernel)
    have int : Binary64.scaled bits / Binary64.unitsInOne = int32.toInt := by
      rw [show Binary64.scaled bits = _ from is, Int.mul_ediv_cancel _ units]
    rw [int, if_pos ⟨finite, is, int32.le_toInt, int32.toInt_lt⟩, Int32.ofInt_toInt]

def smallIntegers : Value :=
  .array [.number (.posInt 0), .number (.negInt (-2147483648)),
    .object [("n", .number (.posInt 2147483647))]]

theorem integer_echo_iff_witness : Echoes exactBoa ⟨fun _ => .ordinary [], 0⟩ smallIntegers := by
  refine (integer_echo_iff exactBoa exactBoa_exactI32 smallIntegers ?_ ?_ _).mpr ?_
  · have negative : (-2147483648 : Int64).toInt < 0 := by decide
    exact ⟨trivial, negative, ⟨List.pairwise_singleton _ _, trivial, trivial⟩, trivial⟩
  · exact ⟨⟨_, rfl, by decide⟩, ⟨_, rfl, by decide⟩, ⟨⟨_, rfl, by decide⟩, trivial⟩, trivial⟩
  · exact ⟨⟨_, rfl, by decide⟩, ⟨_, rfl, by decide⟩, ⟨⟨_, rfl, by decide⟩, trivial⟩, trivial⟩

theorem integer_beyond_i32 :
    let json : Value := .array [.number (.posInt 2147483648)]
    json.Valid ∧ json.AllNumbers Number.ExactInteger ∧
      ¬ Echoes exactBoa ⟨fun _ => .ordinary [], 0⟩ json := by
  intro json
  have valid : json.Valid := ⟨trivial, trivial⟩
  have integers : json.AllNumbers Number.ExactInteger := ⟨⟨_, rfl, by decide⟩, trivial⟩
  refine ⟨valid, integers, fun echoed => ?_⟩
  have same := (echoes_iff json valid _).mp echoed
  simp only [json, Value.mapNumbers, Value.mapElements, Value.array.injEq, List.cons.injEq,
    Value.number.injEq] at same
  have leaf : Number.ExactInteger (.posInt 2147483648) := integers.1
  have plain : Number.Valid (.posInt 2147483648) := trivial
  obtain ⟨int, is, -, high⟩ := (numberRoundTrip_iff exactBoa_exactI32 plain leaf).mp same.1
  cases is
  exact absurd high (by decide)

end MadRpc
