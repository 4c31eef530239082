import Mathlib.Algebra.BigOperators.Group.Finset.Basic
import Mathlib.Algebra.BigOperators.Group.List.Basic

set_option autoImplicit false

/-!
# Weighted counts of the members of a list

A counter that many parties add to is the tally of what each of them has added so far.
The rules say how a tally moves when one member changes or a new one joins.
-/

universe u v

def tally {Item : Type u} (weight : Item → Nat) : List Item → Nat
  | [] => 0
  | item :: rest => weight item + tally weight rest

section Tally

variable {Item : Type u}

@[simp]
theorem tally_nil (weight : Item → Nat) : tally weight [] = 0 := rfl

@[simp]
theorem tally_cons (weight : Item → Nat) (item : Item) (rest : List Item) :
    tally weight (item :: rest) = weight item + tally weight rest := rfl

theorem tally_append (weight : Item → Nat) (first second : List Item) :
    tally weight (first ++ second) = tally weight first + tally weight second := by
  induction first with
  | nil => exact (Nat.zero_add _).symm
  | cons item rest ih => rw [List.cons_append, tally_cons, tally_cons, ih, Nat.add_assoc]

theorem tally_concat (weight : Item → Nat) (items : List Item) (item : Item) :
    tally weight (items ++ [item]) = tally weight items + weight item :=
  tally_append weight items [item]

theorem tally_set (weight : Item → Nat) (items : List Item) (index : Nat) (before after : Item)
    (found : items[index]? = some before) :
    tally weight (items.set index after) + weight before = tally weight items + weight after := by
  induction items generalizing index with
  | nil => cases found
  | cons item rest ih =>
      cases index with
      | zero =>
          cases found
          rw [List.set_cons_zero, tally_cons, tally_cons]
          omega
      | succ index =>
          have later := ih index found
          rw [List.set_cons_succ, tally_cons, tally_cons]
          omega

theorem tally_set_add {weight : Item → Nat} {items : List Item} {index : Nat}
    {before after : Item} (found : items[index]? = some before) (added : Nat)
    (grown : weight after = weight before + added) :
    tally weight (items.set index after) = tally weight items + added := by
  have moved := tally_set weight items index before after found
  omega

theorem tally_congr {first second : Item → Nat} {items : List Item}
    (same : ∀ item ∈ items, first item = second item) :
    tally first items = tally second items := by
  induction items with
  | nil => rfl
  | cons item rest ih =>
      have later := ih fun other member => same other (List.mem_cons_of_mem item member)
      rw [tally_cons, tally_cons, same item List.mem_cons_self, later]

theorem tally_le_tally {first second : Item → Nat} {items : List Item}
    (le : ∀ item ∈ items, first item ≤ second item) :
    tally first items ≤ tally second items := by
  induction items with
  | nil => exact Nat.le_refl 0
  | cons item rest ih =>
      exact Nat.add_le_add (le item List.mem_cons_self)
        (ih fun other member => le other (List.mem_cons_of_mem item member))

theorem tally_map {Source : Type v} (weight : Item → Nat) (view : Source → Item)
    (items : List Source) :
    tally weight (items.map view) = tally (fun item => weight (view item)) items := by
  induction items with
  | nil => rfl
  | cons item rest ih => rw [List.map_cons, tally_cons, tally_cons, ih]

theorem tally_eq_length {weight : Item → Nat} {items : List Item}
    (one : ∀ item ∈ items, weight item = 1) : tally weight items = items.length := by
  rw [tally_congr one]
  induction items with
  | nil => rfl
  | cons item rest ih =>
      rw [tally_cons, List.length_cons, Nat.add_comm]
      exact congrArg (· + 1) (ih fun later member => one later (List.mem_cons_of_mem item member))

theorem tally_eq_zero {weight : Item → Nat} {items : List Item}
    (none : ∀ item ∈ items, weight item = 0) : tally weight items = 0 := by
  rw [tally_congr none]
  induction items with
  | nil => rfl
  | cons item rest ih =>
      rw [tally_cons, Nat.zero_add]
      exact ih fun later member => none later (List.mem_cons_of_mem item member)

theorem tally_add (first second : Item → Nat) (items : List Item) :
    tally (fun item => first item + second item) items =
      tally first items + tally second items := by
  induction items with
  | nil => rfl
  | cons item rest ih =>
      rw [tally_cons, tally_cons, tally_cons, ih]
      omega

theorem tally_indicator (selected : Item → Bool) (items : List Item) :
    tally (fun item => if selected item then 1 else 0) items = items.countP selected := by
  induction items with
  | nil => rfl
  | cons item rest ih =>
      rw [tally_cons, ih, List.countP_cons, Nat.add_comm]

theorem tally_const_of_mem [DecidableEq Item] (chosen : Item) (value : Nat) (items : List Item) :
    tally (fun item => if item = chosen then value else 0) items =
      items.count chosen * value := by
  induction items with
  | nil => exact (Nat.zero_mul value).symm
  | cons item rest ih =>
      rw [tally_cons, ih, List.count_cons, Nat.add_mul, Nat.add_comm]
      by_cases same : item = chosen <;> simp [same]

theorem tally_le_length {weight : Item → Nat} (items : List Item)
    (atMost : ∀ item ∈ items, weight item ≤ 1) : tally weight items ≤ items.length := by
  induction items with
  | nil => exact Nat.le_refl 0
  | cons item rest ih =>
      have here := atMost item List.mem_cons_self
      have later := ih fun later member => atMost later (List.mem_cons_of_mem item member)
      rw [tally_cons, List.length_cons]
      omega

theorem sum_tally {Index : Type v} (indices : Finset Index) (weight : Index → Item → Nat)
    (items : List Item) :
    ∑ index ∈ indices, tally (weight index) items =
      tally (fun item => ∑ index ∈ indices, weight index item) items := by
  induction items with
  | nil => simp
  | cons item rest ih => simp only [tally_cons, Finset.sum_add_distrib, ih]

end Tally
