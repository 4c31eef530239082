import Mathlib.Data.List.Forall2
import Mathlib.Data.String.Basic
import MadRpc.Common.Wire
import MadRpc.Shared.OrderedMap
import MadRpc.Shared.Table

set_option autoImplicit false

/-!
# The members of a tree

A derived `Deserialize` finds the members of a struct by their names, at whichever place, and
skips those that it does not know.
-/

namespace MadRpc.Value

def uint64 (value : UInt64) : Value := .number (.posInt value)

def uint32 (value : UInt32) : Value := uint64 value.toUInt64

def usize (value : Nat) : Value := uint64 (.ofNat value)

def ofOption {α : Type} (serialize : α → Value) (value : Option α) : Value :=
  (value.map serialize).getD .null

def uint64? : Value → Option UInt64
  | .number (.posInt value) => some value
  | _ => none

def uint32? (tree : Value) : Option UInt32 := do
  let value ← tree.uint64?
  if value.toNat < UInt32.size then return value.toUInt32 else none

def usize? (tree : Value) : Option Nat := do return (← tree.uint64?).toNat

def bool? : Value → Option Bool
  | .bool value => some value
  | _ => none

/-- `to_value` of what has these members: the map of a tree is in the order of its keys. -/
def record (members : List (String × Value)) : Value :=
  .object (OrderedMap.insertAll members [])

/-- The members of a struct with these names. A struct may also come as their array. -/
def fields (names : List String) : Value → Option (List (Option Value))
  | .object members => names.mapM fun name => member name members
  | .array elements =>
      if elements.length = names.length then some (elements.map some) else none
  | _ => none

def list? {α : Type} (decode : Value → Option α) : Value → Option (List α)
  | .array elements => elements.mapM decode
  | _ => none

-- A `HashMap` takes the last value of a key that is there more than once.
def table? {α : Type} (decode : Value → Option α) : Value → Option (AList fun _ : String => α)
  | .object members =>
      members.foldlM (fun table entry => (decode entry.2).map fun value =>
        table.insert entry.1 value) ∅
  | _ => none

@[simp] theorem uint64?_uint64 (value : UInt64) : (uint64 value).uint64? = some value := rfl

@[simp] theorem uint32?_uint32 (value : UInt32) : (uint32 value).uint32? = some value := by
  have small : value.toUInt64.toNat < UInt32.size := by
    rw [UInt32.toNat_toUInt64]
    exact value.toNat_lt
  rw [uint32, uint32?, uint64?_uint64]
  simp only [Option.bind_eq_bind, Option.bind_some, if_pos small, UInt32.toUInt32_toUInt64,
    Option.pure_def]

theorem usize?_usize {value : Nat} (fits : value < UInt64.size) :
    (usize value).usize? = some value := by
  rw [usize, usize?, uint64?_uint64]
  exact congrArg some (UInt64.toNat_ofNat_of_lt' fits)

theorem usize?_fits {tree : Value} {value : Nat} (read : tree.usize? = some value) :
    value < UInt64.size := by
  obtain ⟨number, -, same⟩ := Option.bind_eq_some_iff.mp read
  obtain rfl : number.toNat = value := Option.some.inj same
  exact number.toNat_lt

def Has (members : List (String × Value)) (tree : Value) : Prop :=
  ∃ written, tree = .object written ∧ (written.map Prod.fst).Nodup ∧ members ⊆ written

theorem member_of_mem {written : List (String × Value)} {name : String} {value : Value}
    (once : (written.map Prod.fst).Nodup) (there : (name, value) ∈ written) :
    member name written = some (some value) := by
  have found : written.filter (fun entry => entry.1 == name) = [(name, value)] := by
    induction written with
    | nil => cases there
    | cons entry rest ih =>
        obtain ⟨fresh, others⟩ := List.nodup_cons.mp once
        rcases List.mem_cons.mp there with here | later
        · subst here
          have none' : rest.filter (fun entry => entry.1 == name) = [] := by
            refine List.filter_eq_nil_iff.mpr fun entry member same => fresh ?_
            exact List.mem_map.mpr ⟨entry, member, beq_iff_eq.mp same⟩
          rw [List.filter_cons, if_pos (beq_self_eq_true name), none']
        · have different : ¬ (entry.1 == name) = true := by
            intro same
            exact fresh (List.mem_map.mpr ⟨_, later, (beq_iff_eq.mp same).symm⟩)
          rw [List.filter_cons, if_neg different]
          exact ih others later
  rw [member, found]

theorem Has.fields {members : List (String × Value)} {tree : Value} (has : Has members tree) :
    tree.fields (members.map Prod.fst) = some (members.map fun entry => some entry.2) := by
  obtain ⟨written, rfl, once, there⟩ := has
  rw [Value.fields]
  induction members with
  | nil => rfl
  | cons entry rest ih =>
      obtain ⟨here, others⟩ := List.cons_subset.mp there
      rw [List.map_cons, List.mapM_cons, member_of_mem once here, ih others]
      rfl

theorem Has.fewer {members fewer : List (String × Value)} {tree : Value}
    (has : Has members tree) (subset : fewer ⊆ members) : Has fewer tree := by
  obtain ⟨written, same, once, there⟩ := has
  exact ⟨written, same, once, fun _ member => there (subset member)⟩

theorem ordered_nodup {members : List (String × Value)} (ordered : OrderedMap.Ordered members) :
    (members.map Prod.fst).Nodup :=
  ordered.imp fun before => before.ne

theorem record_perm {members : List (String × Value)} (once : (members.map Prod.fst).Nodup) :
    (OrderedMap.insertAll members []).Perm members := by
  have perm := OrderedMap.insertAll_perm members [] (by rwa [List.append_nil])
  rwa [List.append_nil] at perm

theorem has_record {members : List (String × Value)} (once : (members.map Prod.fst).Nodup) :
    Has members (record members) :=
  ⟨_, rfl, ordered_nodup (OrderedMap.insertAll_ordered members [] List.Pairwise.nil),
    fun _ member => (record_perm once).mem_iff.mpr member⟩

def Tabulates {α : Type} (written : α → Value → Prop) (table : AList fun _ : String => α)
    (tree : Value) : Prop :=
  ∃ members, tree = .object members ∧ (members.map Prod.fst).Nodup ∧
    (∀ name, name ∈ members.map Prod.fst ↔ name ∈ table) ∧
    ∀ name value, (name, value) ∈ members →
      ∃ entry, table.lookup name = some entry ∧ written entry value

theorem foldlM_insert {α : Type} {decode : Value → Option α} {written : α → Value → Prop}
    (reads : ∀ entry value, written entry value → decode value = some entry)
    (table : AList fun _ : String => α) (members : List (String × Value))
    (held : AList fun _ : String => α)
    (entries : ∀ name value, (name, value) ∈ members →
      ∃ entry, table.lookup name = some entry ∧ written entry value) :
    ∃ read, members.foldlM (fun table entry => (decode entry.2).map fun value =>
        table.insert entry.1 value) held = some read ∧
      ∀ name, read.lookup name =
        if name ∈ members.map Prod.fst then table.lookup name else held.lookup name := by
  induction members generalizing held with
  | nil => exact ⟨held, rfl, fun _ => rfl⟩
  | cons member rest ih =>
      obtain ⟨name, value⟩ := member
      obtain ⟨entry, known, here⟩ := entries name value List.mem_cons_self
      obtain ⟨read, folded, looked⟩ := ih (held.insert name entry) fun other value later =>
        entries other value (List.mem_cons_of_mem _ later)
      refine ⟨read, ?_, fun other => ?_⟩
      · rw [List.foldlM_cons, reads entry value here]
        exact folded
      · rw [looked, AList.lookup_insert_ite, List.map_cons]
        by_cases later : other ∈ rest.map Prod.fst
        · rw [if_pos later, if_pos (List.mem_cons_of_mem _ later)]
        · by_cases same : other = name
          · rw [if_neg later, if_pos same, if_pos (same ▸ List.mem_cons_self), same, known]
          · rw [if_neg later, if_neg same, if_neg (List.not_mem_cons_of_ne_of_not_mem same later)]

theorem Tabulates.table {α : Type} {decode : Value → Option α} {written : α → Value → Prop}
    (reads : ∀ entry value, written entry value → decode value = some entry)
    {table : AList fun _ : String => α} {tree : Value} (tabulates : Tabulates written table tree) :
    ∃ read, tree.table? decode = some read ∧ ∀ name, read.lookup name = table.lookup name := by
  obtain ⟨members, rfl, -, keys, entries⟩ := tabulates
  obtain ⟨read, folded, looked⟩ := foldlM_insert reads table members ∅ entries
  refine ⟨read, folded, fun name => ?_⟩
  rw [looked]
  split
  next => rfl
  next absent =>
    rw [AList.lookup_empty, AList.lookup_eq_none.mpr (mt (keys name).mpr absent)]

def ofTable {α : Type} (serialize : α → Value) (table : AList fun _ : String => α) : Value :=
  record (table.entries.map fun entry => (entry.1, serialize entry.2))

theorem tabulates_ofTable {α : Type} {serialize : α → Value} {written : α → Value → Prop}
    (writes : ∀ entry, written entry (serialize entry)) (table : AList fun _ : String => α) :
    Tabulates written table (ofTable serialize table) := by
  have keys : (table.entries.map fun entry => (entry.1, serialize entry.2)).map Prod.fst =
      table.keys := List.map_map
  have once : ((table.entries.map fun entry => (entry.1, serialize entry.2)).map
      Prod.fst).Nodup := keys ▸ table.nodupKeys
  have perm := record_perm once
  refine ⟨_, rfl, ordered_nodup (OrderedMap.insertAll_ordered _ [] List.Pairwise.nil), ?_, ?_⟩
  · intro name
    rw [(perm.map Prod.fst).mem_iff, keys]
    exact AList.mem_keys.symm
  · intro name value member
    obtain ⟨entry, listed, same⟩ := List.mem_map.mp (perm.mem_iff.mp member)
    obtain ⟨rfl, rfl⟩ := Prod.mk.inj same
    exact ⟨entry.2, AList.lookup_of_mem listed, writes entry.2⟩

theorem list?_of_forall₂ {α : Type} {decode : Value → Option α} {written : α → Value → Prop}
    (reads : ∀ entry value, written entry value → decode value = some entry) {entries : List α}
    {elements : List Value} (each : List.Forall₂ written entries elements) :
    (array elements).list? decode = some entries := by
  rw [list?]
  induction each with
  | nil => rfl
  | cons here _ ih =>
      rw [List.mapM_cons, reads _ _ here, ih]
      rfl

theorem optional_ofOption {α : Type} {serialize : α → Value} {decode : Value → Option α}
    (reads : ∀ entry, decode (serialize entry) = some entry)
    (present : ∀ entry, serialize entry ≠ .null) (value : Option α) :
    optional decode (some (ofOption serialize value)) = some value := by
  cases value with
  | none => rfl
  | some entry =>
      rw [ofOption, Option.map_some, Option.getD_some, optional, reads]
      · rfl
      · exact fun absent => present entry absent

end MadRpc.Value
