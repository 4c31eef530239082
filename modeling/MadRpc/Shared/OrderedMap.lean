import Mathlib.Data.List.Sort

set_option autoImplicit false

/-!
# Ordered maps

A map that iterates in the order of its keys, as the list of its entries.
-/

universe u v

namespace OrderedMap

variable {Key : Type u} {Value : Type v} [LinearOrder Key]

def Ordered (entries : List (Key × Value)) : Prop :=
  (entries.map Prod.fst).Pairwise (· < ·)

def insert (key : Key) (value : Value) : List (Key × Value) → List (Key × Value)
  | [] => [(key, value)]
  | (other, held) :: rest =>
      if key < other then (key, value) :: (other, held) :: rest
      else if key = other then (key, value) :: rest
      else (other, held) :: insert key value rest

def insertAll (added entries : List (Key × Value)) : List (Key × Value) :=
  added.foldl (fun held entry => insert entry.1 entry.2 held) entries

theorem mem_keys_insert (key : Key) (value : Value) (entries : List (Key × Value)) (other : Key)
    (present : other ∈ (insert key value entries).map Prod.fst) :
    other = key ∨ other ∈ entries.map Prod.fst := by
  induction entries with
  | nil => exact .inl (List.mem_singleton.mp present)
  | cons entry rest ih =>
      unfold insert at present
      split at present
      · exact List.mem_cons.mp present
      split at present
      · exact (List.mem_cons.mp present).imp id (List.mem_cons_of_mem _)
      · rcases List.mem_cons.mp present with same | later
        · exact .inr (same ▸ List.mem_cons_self)
        · exact (ih later).imp id (List.mem_cons_of_mem _)

theorem insert_ordered (key : Key) (value : Value) (entries : List (Key × Value))
    (ordered : Ordered entries) : Ordered (insert key value entries) := by
  induction entries with
  | nil => exact List.pairwise_singleton _ _
  | cons entry rest ih =>
      obtain ⟨above, tail⟩ := List.pairwise_cons.mp ordered
      unfold insert
      split
      next before =>
        refine List.pairwise_cons.mpr ⟨?_, ordered⟩
        intro other present
        rcases List.mem_cons.mp present with rfl | later
        · exact before
        · exact before.trans (above other later)
      next notBefore =>
        split
        next same => exact List.pairwise_cons.mpr ⟨same ▸ above, tail⟩
        next different =>
          have after : entry.1 < key :=
            lt_of_le_of_ne (not_lt.mp notBefore) (Ne.symm different)
          refine List.pairwise_cons.mpr ⟨?_, ih tail⟩
          intro other present
          rcases mem_keys_insert key value rest other present with rfl | later
          · exact after
          · exact above other later

theorem insertAll_ordered (added entries : List (Key × Value)) (ordered : Ordered entries) :
    Ordered (insertAll added entries) := by
  induction added generalizing entries with
  | nil => exact ordered
  | cons entry rest ih => exact ih _ (insert_ordered entry.1 entry.2 entries ordered)

theorem insert_perm (key : Key) (value : Value) (entries : List (Key × Value))
    (fresh : key ∉ entries.map Prod.fst) :
    (insert key value entries).Perm ((key, value) :: entries) := by
  induction entries with
  | nil => exact .refl _
  | cons entry rest ih =>
      obtain ⟨different, later⟩ := List.ne_and_not_mem_of_not_mem_cons fresh
      unfold insert
      split
      · exact .refl _
      · exact ((ih later).cons entry).trans (.swap _ _ _)

theorem insertAll_perm (added entries : List (Key × Value))
    (once : ((added ++ entries).map Prod.fst).Nodup) :
    (insertAll added entries).Perm (added ++ entries) := by
  induction added generalizing entries with
  | nil => exact .refl _
  | cons entry rest ih =>
      rw [List.cons_append, List.map_cons] at once
      obtain ⟨fresh, -⟩ := List.nodup_cons.mp once
      have inserted : (insert entry.1 entry.2 entries).Perm (entry :: entries) := by
        refine insert_perm entry.1 entry.2 entries fun present => fresh ?_
        rw [List.map_append]
        exact List.mem_append_right _ present
      have moved : (rest ++ insert entry.1 entry.2 entries).Perm (entry :: (rest ++ entries)) :=
        (inserted.append_left rest).trans List.perm_middle
      exact (ih _ ((moved.map Prod.fst).nodup_iff.mpr once)).trans moved

theorem eq_of_perm {first second : List (Key × Value)} (ordered : Ordered first)
    (ordered' : Ordered second) (perm : first.Perm second) : first = second := by
  have apart {entries : List (Key × Value)} (ordered : Ordered entries) :
      entries.Pairwise fun entry later => entry.1 < later.1 := List.pairwise_map.mp ordered
  refine perm.eq_of_pairwise (fun entry other _ _ before after => ?_) (apart ordered)
    (apart ordered')
  exact absurd (before.trans after) (lt_irrefl _)

theorem insertAll_eq (added entries : List (Key × Value)) (ordered : Ordered entries)
    (perm : added.Perm entries) : insertAll added [] = entries := by
  have once : (added.map Prod.fst).Nodup :=
    (perm.map Prod.fst).nodup_iff.mpr (ordered.imp fun before => before.ne)
  refine eq_of_perm (insertAll_ordered added [] List.Pairwise.nil) ordered ?_
  have inserted := insertAll_perm added [] (by rwa [List.append_nil])
  rw [List.append_nil] at inserted
  exact inserted.trans perm

end OrderedMap
