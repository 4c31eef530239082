import Mathlib.Data.List.AList

set_option autoImplicit false

/-!
# In-place updates of association lists

A hash map whose iteration order is never observed, as an `AList`. Updates through a
mutable reference keep the keys and their order.
-/

universe u v w

namespace AList

variable {Key : Type u} {Value : Type v}

def mapVal (update : Key → Value → Value) (table : AList fun _ : Key => Value) :
    AList fun _ : Key => Value where
  entries := table.entries.map fun entry => ⟨entry.1, update entry.1 entry.2⟩
  nodupKeys := table.nodupKeys.map₂ update

def retain (keep : Key → Value → Bool) (table : AList fun _ : Key => Value) :
    AList fun _ : Key => Value where
  entries := table.entries.filter fun entry => keep entry.1 entry.2
  nodupKeys := table.nodupKeys.sublist List.filter_sublist

@[simp]
theorem keys_mapVal (update : Key → Value → Value) (table : AList fun _ : Key => Value) :
    (table.mapVal update).keys = table.keys := by
  simp [keys, List.keys, mapVal]

theorem keys_retain_sublist (keep : Key → Value → Bool) (table : AList fun _ : Key => Value) :
    (table.retain keep).keys.Sublist table.keys :=
  List.filter_sublist.map _

variable [DecidableEq Key]

@[simp]
theorem lookup_mapVal (update : Key → Value → Value) (table : AList fun _ : Key => Value)
    (key : Key) : (table.mapVal update).lookup key = (table.lookup key).map (update key) :=
  List.dlookup_map₂ key

def modify (key : Key) (update : Value → Value) (table : AList fun _ : Key => Value) :
    AList fun _ : Key => Value :=
  table.mapVal fun other value => if other = key then update value else value

@[simp]
theorem lookup_modify (key : Key) (update : Value → Value) (table : AList fun _ : Key => Value)
    (other : Key) :
    (table.modify key update).lookup other =
      if other = key then (table.lookup other).map update else table.lookup other := by
  simp only [modify, lookup_mapVal]
  split <;> simp

@[simp]
theorem keys_modify (key : Key) (update : Value → Value) (table : AList fun _ : Key => Value) :
    (table.modify key update).keys = table.keys :=
  keys_mapVal _ table

theorem modify_eq_self {key : Key} {update : Value → Value} {table : AList fun _ : Key => Value}
    (same : ∀ value, table.lookup key = some value → update value = value) :
    table.modify key update = table := by
  refine AList.ext ((List.map_congr_left fun entry member => ?_).trans (List.map_id _))
  obtain ⟨other, value⟩ := entry
  by_cases here : other = key
  · subst here
    have found : table.lookup other = some value := mem_lookup_iff.mpr member
    simp only [if_true, same value found, id]
  · simp only [if_neg here, id]

theorem keys_insert_absent (key : Key) (value : Value) (table : AList fun _ : Key => Value)
    (absent : table.lookup key = none) : (table.insert key value).keys = key :: table.keys := by
  rw [keys_insert, List.erase_of_not_mem]
  exact fun member => lookup_eq_none.mp absent (mem_keys.mpr member)

@[simp]
theorem lookup_retain (keep : Key → Value → Bool) (table : AList fun _ : Key => Value)
    (key : Key) : (table.retain keep).lookup key = (table.lookup key).filter (keep key) := by
  apply Option.ext
  intro value
  have kept : value ∈ (table.retain keep).lookup key ↔
      value ∈ table.lookup key ∧ keep key value = true := by
    rw [mem_lookup_iff, mem_lookup_iff]
    simp [retain]
  simpa [Option.mem_def, Option.filter_eq_some_iff] using kept

@[simp]
theorem lookup_insert_ite (key other : Key) (value : Value) (table : AList fun _ : Key => Value) :
    (table.insert key value).lookup other =
      if other = key then some value else table.lookup other := by
  split
  next same => rw [same, lookup_insert]
  next different => exact lookup_insert_ne different

@[simp]
theorem lookup_erase_ite (key other : Key) (table : AList fun _ : Key => Value) :
    (table.erase key).lookup other = if other = key then none else table.lookup other := by
  split
  next same => rw [same, lookup_erase]
  next different => exact lookup_erase_ne different

theorem lookup_of_lookup_erase {key other : Key} {value : Value}
    {table : AList fun _ : Key => Value} (found : (table.erase key).lookup other = some value) :
    table.lookup other = some value := by
  rw [lookup_erase_ite] at found
  split at found
  next => cases found
  next => exact found

theorem lookup_foldl_erase (keys : List Key) (table : AList fun _ : Key => Value) (other : Key) :
    (keys.foldl (fun table key => table.erase key) table).lookup other =
      if other ∈ keys then none else table.lookup other := by
  induction keys generalizing table with
  | nil => simp
  | cons key rest ih =>
      rw [List.foldl_cons, ih, lookup_erase_ite]
      by_cases later : other ∈ rest <;> by_cases same : other = key <;> simp [later, same]

theorem lookup_of_lookup_foldl_erase (keys : List Key) {table : AList fun _ : Key => Value}
    {other : Key} {value : Value}
    (found : (keys.foldl (fun table key => table.erase key) table).lookup other = some value) :
    table.lookup other = some value := by
  rw [lookup_foldl_erase] at found
  split at found
  next => cases found
  next => exact found

def ofKeys (make : Key → Value) (keys : List Key) : AList fun _ : Key => Value :=
  -- As pairs are collected into a map: a repeated key overwrites.
  keys.foldl (fun table key => table.insert key (make key)) ∅

theorem lookup_foldl_insert (make : Key → Value) (keys : List Key)
    (table : AList fun _ : Key => Value) (key : Key) :
    (keys.foldl (fun table key => table.insert key (make key)) table).lookup key =
      if key ∈ keys then some (make key) else table.lookup key := by
  induction keys generalizing table with
  | nil => simp
  | cons head rest ih =>
      rw [List.foldl_cons, ih, lookup_insert_ite]
      by_cases later : key ∈ rest <;> by_cases same : key = head <;> simp [later, same]

@[simp]
theorem lookup_ofKeys (make : Key → Value) (keys : List Key) (key : Key) :
    (ofKeys make keys).lookup key = if key ∈ keys then some (make key) else none := by
  simp [ofKeys, lookup_foldl_insert]

end AList

namespace AList

variable {Key : Type u} {Value : Type v} {Other : Type w}

def through (read : Value → Other) (table : AList fun _ : Key => Value) :
    AList fun _ : Key => Other where
  entries := table.entries.map fun entry => ⟨entry.1, read entry.2⟩
  nodupKeys := table.nodupKeys.map₂ fun _ => read

theorem keys_through (read : Value → Other) (table : AList fun _ : Key => Value) :
    (table.through read).keys = table.keys := by
  simp [keys, List.keys, through]

def mapEntries (turn : Key → Value → Other) (table : AList fun _ : Key => Value) :
    AList fun _ : Key => Other where
  entries := table.entries.map fun entry => ⟨entry.1, turn entry.1 entry.2⟩
  nodupKeys := table.nodupKeys.map₂ turn

@[simp]
theorem keys_mapEntries (turn : Key → Value → Other) (table : AList fun _ : Key => Value) :
    (table.mapEntries turn).keys = table.keys := by
  simp [keys, List.keys, mapEntries]

theorem through_congr {first second : Value → Other} {table : AList fun _ : Key => Value}
    (same : ∀ entry ∈ table.entries, first entry.2 = second entry.2) :
    table.through first = table.through second := by
  apply AList.ext
  exact List.map_congr_left fun entry member => by rw [same entry member]

theorem retain_through (keep : Key → Other → Bool) (read : Value → Other)
    (table : AList fun _ : Key => Value) :
    (table.through read).retain keep =
      (table.retain fun key value => keep key (read value)).through read := by
  apply AList.ext
  exact List.filter_map

theorem retain_retain (first second : Key → Value → Bool) (table : AList fun _ : Key => Value) :
    (table.retain first).retain second =
      table.retain fun key value => first key value && second key value := by
  apply AList.ext
  simp only [retain, List.filter_filter, Bool.and_comm]

theorem retain_congr {first second : Key → Value → Bool} {table : AList fun _ : Key => Value}
    (same : ∀ entry ∈ table.entries, first entry.1 entry.2 = second entry.1 entry.2) :
    table.retain first = table.retain second := by
  apply AList.ext
  exact List.filter_congr same

theorem retain_eq_self {keep : Key → Value → Bool} {table : AList fun _ : Key => Value}
    (all : ∀ entry ∈ table.entries, keep entry.1 entry.2 = true) : table.retain keep = table := by
  apply AList.ext
  exact List.filter_eq_self.mpr all

variable [DecidableEq Key]

theorem lookup_through (read : Value → Other) (table : AList fun _ : Key => Value) (key : Key) :
    (table.through read).lookup key = (table.lookup key).map read :=
  @List.dlookup_map₂ Key _ (fun _ => Value) (fun _ => Other) table.entries (fun _ => read) key

@[simp]
theorem lookup_mapEntries (turn : Key → Value → Other) (table : AList fun _ : Key => Value)
    (key : Key) : (table.mapEntries turn).lookup key = (table.lookup key).map (turn key) :=
  List.dlookup_map₂ key

theorem lookup_of_mem {table : AList fun _ : Key => Value} {entry : Sigma fun _ : Key => Value}
    (member : entry ∈ table.entries) : table.lookup entry.1 = some entry.2 :=
  List.mem_dlookup table.nodupKeys member

theorem through_erase (read : Value → Other) (table : AList fun _ : Key => Value) (key : Key) :
    (table.erase key).through read = (table.through read).erase key := by
  apply AList.ext
  show (List.eraseP _ _).map _ = List.eraseP _ (List.map _ _)
  rw [List.eraseP_map]
  rfl

theorem through_insert (read : Value → Other) (table : AList fun _ : Key => Value) (key : Key)
    (value : Value) :
    (table.insert key value).through read = (table.through read).insert key (read value) := by
  apply AList.ext
  exact congrArg (List.cons _) (congrArg entries (through_erase read table key))

theorem foldl_erase_through (read : Value → Other) (keys : List Key)
    (table : AList fun _ : Key => Value) :
    (keys.foldl (fun table key => table.erase key) table).through read =
      keys.foldl (fun table key => table.erase key) (table.through read) := by
  induction keys generalizing table with
  | nil => rfl
  | cons key rest ih => rw [List.foldl_cons, ih, through_erase, List.foldl_cons]

theorem erase_eq_retain (key : Key) (table : AList fun _ : Key => Value) :
    table.erase key = table.retain fun other _ => other ≠ key := by
  apply AList.ext
  have distinct := table.nodupKeys
  show List.kerase key table.entries = _
  unfold retain
  dsimp only
  generalize table.entries = entries at distinct
  induction entries with
  | nil => rfl
  | cons entry rest ih =>
      obtain ⟨fresh, distinct⟩ := List.nodupKeys_cons.mp distinct
      by_cases here : key = entry.1
      · rw [List.kerase_cons_eq here, List.filter_cons_of_neg (by simp [here])]
        refine (List.filter_eq_self.mpr fun other member => ?_).symm
        simp only [decide_eq_true_eq]
        rintro rfl
        exact fresh (here ▸ List.mem_keys_of_mem member)
      · rw [List.kerase_cons_ne here, List.filter_cons_of_pos (by simp [Ne.symm here]), ih distinct]

theorem entries_perm {first second : AList fun _ : Key => Value}
    (same : ∀ key, first.lookup key = second.lookup key) :
    first.entries.Perm second.entries :=
  List.lookup_ext first.nodupKeys second.nodupKeys fun key value => by
    show value ∈ first.lookup key ↔ value ∈ second.lookup key
    rw [same]

/-- In whichever order the keys come, every entry makes a row once. -/
theorem rows_perm {Row : Type*} {table : AList fun _ : Key => Value} {order : List Key}
    (iterated : order.Perm table.keys) (row : Key → Value → Row) :
    (order.filterMap fun key => (table.lookup key).map (row key)).Perm
      (table.entries.map fun entry => row entry.1 entry.2) := by
  have each : (table.keys.filterMap fun key => (table.lookup key).map (row key)) =
      table.entries.map fun entry => row entry.1 entry.2 := by
    show ((table.entries.map Sigma.fst).filterMap fun key => (table.lookup key).map (row key)) = _
    rw [List.filterMap_map, ← List.filterMap_eq_map]
    refine List.filterMap_congr fun entry member => ?_
    show (table.lookup entry.1).map (row entry.1) = some (row entry.1 entry.2)
    rw [mem_lookup_iff.mpr member, Option.map_some]
  exact each ▸ iterated.filterMap _

end AList
