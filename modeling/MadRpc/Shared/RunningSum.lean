set_option autoImplicit false

/-!
# The first place where a running sum reaches a target

Nothing is assumed of the addition, so that a sum may also wrap around.
-/

universe u

variable {Weight : Type u} [Add Weight]

/-- A place in a list of weights, with the sum of what stands before it. -/
structure Crossing (Weight : Type u) where
  index : Nat
  before : Weight
  weight : Weight

namespace RunningSum

def total (start : Weight) (weights : List Weight) : Weight :=
  weights.foldl (fun sum weight => sum + weight) start

section Total

variable [Std.Associative (fun first second : Weight => first + second)]
  [Std.Commutative (fun first second : Weight => first + second)]

theorem total_add (start extra : Weight) (weights : List Weight) :
    total (start + extra) weights = total start weights + extra := by
  induction weights generalizing start with
  | nil => rfl
  | cons weight rest ih =>
      have moved : start + extra + weight = start + weight + extra := by ac_rfl
      exact (congrArg (total · rest) moved).trans (ih (start + weight))

theorem total_set (start extra : Weight) {weights : List Weight} {place : Nat} {weight : Weight}
    (there : weights[place]? = some weight) :
    total start (weights.set place (weight + extra)) = total start weights + extra := by
  induction weights generalizing start place with
  | nil => cases there
  | cons first rest ih =>
      cases place with
      | zero =>
          obtain rfl : first = weight := Option.some.inj there
          have moved : start + (first + extra) = start + first + extra := by ac_rfl
          exact (congrArg (total · rest) moved).trans (total_add _ extra rest)
      | succ place => exact ih (start + first) there

end Total

variable [LE Weight] [DecidableLE Weight]

def crossing (target : Weight) : List Weight → Nat → Weight → Option (Crossing Weight)
  | [], _, _ => none
  | weight :: rest, index, sum =>
      if target ≤ sum + weight then some ⟨index, sum, weight⟩
      else crossing target rest (index + 1) (sum + weight)

variable {target other start : Weight} {weights : List Weight} {index : Nat}
  {found later : Crossing Weight}

theorem crossing_reaches (crossed : crossing target weights index start = some found) :
    target ≤ found.before + found.weight := by
  induction weights generalizing index start with
  | nil => cases crossed
  | cons weight rest ih =>
      rw [crossing] at crossed
      split at crossed
      next reached =>
        cases crossed
        exact reached
      next => exact ih crossed

theorem crossing_getElem? (crossed : crossing target weights index start = some found) :
    ∃ place, found.index = index + place ∧ weights[place]? = some found.weight := by
  induction weights generalizing index start with
  | nil => cases crossed
  | cons weight rest ih =>
      rw [crossing] at crossed
      split at crossed
      next =>
        cases crossed
        exact ⟨0, rfl, rfl⟩
      next =>
        obtain ⟨place, same, there⟩ := ih crossed
        exact ⟨place + 1, by omega, there⟩

theorem crossing_isSome (nonempty : weights ≠ []) (reached : target ≤ total start weights) :
    ∃ found, crossing target weights index start = some found := by
  induction weights generalizing index start with
  | nil => exact absurd rfl nonempty
  | cons weight rest ih =>
      rw [crossing]
      split
      next => exact ⟨_, rfl⟩
      next short =>
        refine ih ?_ reached
        -- After the last weight the sum is the total.
        rintro rfl
        exact short reached

theorem crossing_at_once (reached : ∀ weight, target ≤ start + weight)
    (crossed : crossing target weights index start = some found) : found.index = index := by
  cases weights with
  | nil => cases crossed
  | cons weight rest =>
      rw [crossing, if_pos (reached weight)] at crossed
      cases crossed
      rfl

variable [Std.IsLinearOrder Weight]

theorem crossing_mono (le : target ≤ other)
    (first : crossing target weights index start = some found)
    (second : crossing other weights index start = some later) :
    found = later ∨ found.index < later.index := by
  induction weights generalizing index start with
  | nil => cases first
  | cons weight rest ih =>
      rw [crossing] at first second
      split at first
      next =>
        cases first
        split at second
        next =>
          cases second
          exact .inl rfl
        next =>
          obtain ⟨place, same, -⟩ := crossing_getElem? second
          exact .inr (by simp only [same]; omega)
      next short =>
        rw [if_neg fun reached => short (Std.le_trans le reached)] at second
        exact ih first second

variable [LT Weight] [Std.LawfulOrderLT Weight]

theorem crossing_before (crossed : crossing target weights index start = some found) :
    found.before = start ∨ found.before < target := by
  induction weights generalizing index start with
  | nil => cases crossed
  | cons weight rest ih =>
      rw [crossing] at crossed
      split at crossed
      next =>
        cases crossed
        exact .inl rfl
      next short =>
        rcases ih crossed with first | below
        · exact .inr (first ▸ Std.not_le.mp short)
        · exact .inr below

end RunningSum
