import Mathlib.Algebra.Order.Field.Basic
import Mathlib.Data.List.Count
import Mathlib.Tactic.Linarith
import MadRpc.Shared.Machine

set_option autoImplicit false

/-!
# Token buckets as bounds on windows

Each key has a bucket of at most `burst` tokens that refills at `rate`. A request is
granted when a whole token is there. The log of requests, newest first, is the state;
what a bucket holds is a function of it.
-/

universe u v

namespace Metering

theorem forall_split_cons {Item : Type u} {head : Item} {earlier : List Item}
    {property : List Item → Item → Prop} :
    (∀ newer entry older, head :: earlier = newer ++ entry :: older → property newer entry) ↔
      property [] head ∧ ∀ newer entry older, earlier = newer ++ entry :: older →
        property (head :: newer) entry := by
  constructor
  · intro each
    refine ⟨each [] head earlier rfl, ?_⟩
    rintro newer entry older rfl
    exact each (head :: newer) entry older rfl
  · rintro ⟨first, later⟩ newer entry older whole
    rcases newer with _ | ⟨front, newer⟩
    · obtain ⟨rfl, rfl⟩ := List.cons.inj whole
      exact first
    · obtain ⟨rfl, remaining⟩ := List.cons.inj whole
      exact later newer entry older remaining

theorem forall_split_reverse {Item : Type u} {items : List Item}
    {property : List Item → Item → Prop} :
    (∀ newer entry older, items.reverse = newer ++ entry :: older → property newer entry) ↔
      ∀ (index : Nat) entry, items[index]? = some entry →
        property (items.drop (index + 1)).reverse entry := by
  constructor
  · intro each index entry here
    obtain ⟨within, found⟩ := List.getElem?_eq_some_iff.mp here
    have whole : items = items.take index ++ entry :: items.drop (index + 1) := by
      rw [← found, List.getElem_cons_drop, List.take_append_drop]
    apply each _ entry (items.take index).reverse
    conv_lhs => rw [whole]
    simp
  · intro each newer entry older split
    have whole : items = older.reverse ++ entry :: newer.reverse := by
      rw [← items.reverse_reverse, split]
      simp
    have here := each older.length entry (by simp [whole])
    have passed : older.reverse.drop (older.length + 1) = [] := List.drop_eq_nil_of_le (by simp)
    simpa [whole, List.drop_append, passed] using here

variable {Key : Type u} {K : Type v}

structure Entry (Key : Type u) (K : Type v) where
  key : Key
  time : K
  granted : Bool

variable [DecidableEq Key]

def spent (key : Key) (log : List (Entry Key K)) : Nat :=
  log.countP fun entry => decide (entry.key = key) && entry.granted

@[simp]
theorem spent_nil (key : Key) : spent key ([] : List (Entry Key K)) = 0 := rfl

theorem spent_cons (key : Key) (entry : Entry Key K) (log : List (Entry Key K)) :
    spent key (entry :: log) =
      spent key log + if entry.key = key ∧ entry.granted = true then 1 else 0 := by
  simp [spent, List.countP_cons]

variable [Field K] [LinearOrder K]

/-- The tokens the bucket of a key holds at a time no earlier than the log. -/
def level (rate burst : K) (key : Key) : List (Entry Key K) → K → K
  -- A key that has not been seen has a full bucket.
  | [], _ => burst
  | entry :: earlier, now =>
      if entry.key = key then
        min (level rate burst key earlier entry.time - (if entry.granted then 1 else 0) +
          rate * (now - entry.time)) burst
      else level rate burst key earlier now

theorem level_other (rate burst : K) (key : Key) (entry : Entry Key K)
    (earlier : List (Entry Key K)) (now : K) (other : entry.key ≠ key) :
    level rate burst key (entry :: earlier) now = level rate burst key earlier now := by
  simp [level, other]

theorem level_cons_congr (rate burst : K) (key : Key) {log other : List (Entry Key K)}
    (same : ∀ now, level rate burst key log now = level rate burst key other now)
    (entry : Entry Key K) (now : K) :
    level rate burst key (entry :: log) now = level rate burst key (entry :: other) now := by
  simp [level, same]

theorem level_append_other (rate burst : K) (key : Key) (newer log : List (Entry Key K)) (now : K)
    (others : ∀ entry ∈ newer, entry.key ≠ key) :
    level rate burst key (newer ++ log) now = level rate burst key log now := by
  induction newer with
  | nil => rfl
  | cons entry rest ih =>
      obtain ⟨other, remaining⟩ := List.forall_mem_cons.mp others
      rw [List.cons_append, level_other rate burst key entry _ now other, ih remaining]

theorem level_filter (rate burst : K) (key : Key) (log : List (Entry Key K)) (now : K) :
    level rate burst key (log.filter fun entry => entry.key = key) now =
      level rate burst key log now := by
  induction log generalizing now with
  | nil => rfl
  | cons entry earlier ih =>
      by_cases same : entry.key = key
      · simp [level, same, ih]
      · simp [level_other, same, ih]

def meter (rate burst : K) : Machine (List (Entry Key K)) (Key × K) K where
  step log request :=
    let tokens := level rate burst request.1 log request.2
    (⟨request.1, request.2, decide (1 ≤ tokens)⟩ :: log, tokens)

variable [IsStrictOrderedRing K]

/-- An amount is there exactly if every window that ends now has room for it. -/
theorem le_level_iff (rate burst amount : K) (key : Key) (log : List (Entry Key K)) (now : K) :
    amount ≤ level rate burst key log now ↔ amount ≤ burst ∧
      ∀ newer entry older, log = newer ++ entry :: older → entry.key = key →
        amount + spent key (newer ++ [entry]) ≤ burst + rate * (now - entry.time) := by
  induction log generalizing amount now with
  | nil => simp [level]
  | cons head earlier ih =>
      rw [forall_split_cons]
      by_cases same : head.key = key
      · -- The amount asked of the level just after `head`, whose own token is charged to it.
        have charged : amount ≤ level rate burst key (head :: earlier) now ↔
            amount + (if head.granted then 1 else 0) - rate * (now - head.time) ≤
              level rate burst key earlier head.time ∧ amount ≤ burst := by
          rw [level, if_pos same, le_min_iff]
          refine and_congr_left fun _ => ⟨fun _ => by linarith, fun _ => by linarith⟩
        have cost (newer : List (Entry Key K)) (entry : Entry Key K) :
            ((spent key (head :: newer ++ [entry]) : Nat) : K) =
              spent key (newer ++ [entry]) + if head.granted then 1 else 0 := by
          simp [spent_cons, same]
        have alone : ((spent key ([] ++ [head]) : Nat) : K) = if head.granted then 1 else 0 := by
          simp [spent_cons, same]
        rw [charged, ih]
        simp only [cost, alone, same, forall_true_left]
        constructor
        · rintro ⟨⟨first, later⟩, capped⟩
          refine ⟨capped, by linarith, fun newer entry older split mine => ?_⟩
          have room := later newer entry older split mine
          linarith
        · rintro ⟨capped, first, later⟩
          refine ⟨⟨by linarith, fun newer entry older split mine => ?_⟩, capped⟩
          have room := later newer entry older split mine
          linarith
      · have cost (newer : List (Entry Key K)) (entry : Entry Key K) :
            spent key (head :: newer ++ [entry]) = spent key (newer ++ [entry]) := by
          simp [spent_cons, same]
        rw [level_other rate burst key head earlier now same, ih]
        simp only [cost, same, false_implies, true_and]

def entryOf (found : (Key × K) × K) : Entry Key K := ⟨found.1.1, found.1.2, decide (1 ≤ found.2)⟩

omit [IsStrictOrderedRing K] in
theorem meter_run (rate burst : K) (log : List (Entry Key K)) (requests : List (Key × K)) :
    (meter rate burst).run log requests =
      ((requests.zip ((meter rate burst).outputs log requests)).map entryOf).reverse ++ log := by
  induction requests generalizing log with
  | nil => rfl
  | cons request rest ih =>
      rw [Machine.run_cons, ih]
      simp [meter, entryOf]

omit [IsStrictOrderedRing K] in
theorem meter_outputs_filter (rate burst : K) (log : List (Entry Key K))
    (requests : List (Key × K)) (key : Key) :
    ((requests.zip ((meter rate burst).outputs log requests)).filter
        fun found => found.1.1 = key).map Prod.snd =
      (meter rate burst).outputs (log.filter fun entry => entry.key = key)
        (requests.filter fun request => request.1 = key) := by
  -- What a key is told depends on its own requests alone.
  induction requests generalizing log with
  | nil => rfl
  | cons request rest ih =>
      have tail := ih ((meter rate burst).step log request).1
      by_cases mine : request.1 = key
      · subst mine
        simp only [Machine.outputs_cons, List.zip_cons_cons, List.filter_cons, decide_true, if_true,
          List.map_cons, meter, level_filter] at tail ⊢
        rw [tail]
      · simp only [Machine.outputs_cons, List.zip_cons_cons, List.filter_cons, decide_false, mine,
          Bool.false_eq_true, if_false, meter] at tail ⊢
        rw [tail]

theorem meter_window (rate burst : K) (requests : List (Key × K)) (index : Nat) (key : Key)
    (now : K) (here : requests[index]? = some (key, now)) (full : 1 ≤ burst) :
    let record := (requests.zip ((meter rate burst).outputs [] requests)).map entryOf
    ∃ tokens, ((meter rate burst).outputs [] requests)[index]? = some tokens ∧
      (1 ≤ tokens ↔ ∀ first entry, (record.take index)[first]? = some entry → entry.key = key →
        1 + spent key ((record.take index).drop first) ≤
          burst + rate * (now - entry.time)) := by
  intro record
  have log : (meter rate burst).run [] (requests.take index) = (record.take index).reverse := by
    rw [meter_run, List.append_nil, ← Machine.outputs_take, List.zip, ← List.take_zipWith,
      List.map_take]
    rfl
  refine ⟨level rate burst key (record.take index).reverse now, ?_, ?_⟩
  · rw [Machine.outputs_getElem?, here, log]
    rfl
  · -- The newest-first log splits where the record, read forward, has an earlier request.
    rw [le_level_iff, forall_split_reverse, and_iff_right full]
    refine forall_congr' fun first => forall_congr' fun entry => forall_congr' fun found => ?_
    obtain ⟨within, head⟩ := List.getElem?_eq_some_iff.mp found
    have window : spent key (((record.take index).drop (first + 1)).reverse ++ [entry]) =
        spent key ((record.take index).drop first) := by
      rw [← List.getElem_cons_drop within, head]
      simp [spent, List.countP_append, List.countP_cons]
    rw [window]

def Admitted (rate burst : K) : List (Entry Key K) → Prop
  | [] => True
  | entry :: earlier =>
      (entry.granted = true → 1 ≤ level rate burst entry.key earlier entry.time) ∧
        Admitted rate burst earlier

def Ordered (key : Key) (log : List (Entry Key K)) : Prop :=
  log.Pairwise fun newer older => newer.key = key → older.key = key → older.time ≤ newer.time

def spentSince (key : Key) (start : K) (log : List (Entry Key K)) : Nat :=
  spent key (log.filter fun entry => start ≤ entry.time)

def spentWithin (key : Key) (start finish : K) (log : List (Entry Key K)) : Nat :=
  spent key (log.filter fun entry => start ≤ entry.time ∧ entry.time ≤ finish)

theorem level_le_burst (rate burst : K) (key : Key) (log : List (Entry Key K)) (now : K) :
    level rate burst key log now ≤ burst :=
  ((le_level_iff rate burst _ key log now).mp le_rfl).1

omit [Field K] [IsStrictOrderedRing K] in
theorem spentSince_old (key : Key) (start : K) (log : List (Entry Key K))
    (old : ∀ entry ∈ log, entry.key = key → entry.time < start) : spentSince key start log = 0 := by
  rw [spentSince, spent, List.countP_eq_zero]
  intro entry member mine
  obtain ⟨listed, recent⟩ := List.mem_filter.mp member
  simp only [Bool.and_eq_true, decide_eq_true_eq] at mine recent
  exact absurd recent (not_le_of_gt (old entry listed mine.1))

theorem level_since (rate burst amount : K) (key : Key) (log : List (Entry Key K))
    (start now : K) (ordered : Ordered key log) (opened : start ≤ now) (positive : 0 ≤ rate)
    (there : amount ≤ level rate burst key log now) :
    amount + spentSince key start log ≤ burst + rate * (now - start) := by
  induction log generalizing amount now with
  | nil =>
      have grown := mul_nonneg positive (sub_nonneg.mpr opened)
      simp only [spentSince, List.filter_nil, spent_nil, Nat.cast_zero]
      linarith [level_le_burst rate burst key [] now]
  | cons head earlier ih =>
      obtain ⟨first, later⟩ := List.pairwise_cons.mp ordered
      by_cases same : head.key = key
      · -- A head from before the window opened ends the count: the rest is older still.
        by_cases recent : start ≤ head.time
        · have counted : ((spentSince key start (head :: earlier) : Nat) : K) =
              spentSince key start earlier + if head.granted then 1 else 0 := by
            simp [spentSince, recent, spent_cons, same]
          rw [level, if_pos same, le_min_iff] at there
          have room := ih (amount + (if head.granted then 1 else 0) - rate * (now - head.time))
            head.time later recent (by linarith [there.1])
          rw [counted]
          linarith
        · have old := spentSince_old key start (head :: earlier) (by
            intro entry member mine
            rcases List.mem_cons.mp member with rfl | member
            · exact lt_of_not_ge recent
            · exact (first entry member same mine).trans_lt (lt_of_not_ge recent))
          have grown := mul_nonneg positive (sub_nonneg.mpr opened)
          rw [old, Nat.cast_zero]
          linarith [level_le_burst rate burst key (head :: earlier) now]
      · have counted : spentSince key start (head :: earlier) = spentSince key start earlier := by
          by_cases recent : start ≤ head.time <;> simp [spentSince, recent, spent_cons, same]
        rw [level_other rate burst key head earlier now same] at there
        rw [counted]
        exact ih amount now later opened there

/-- No window grants a key more than a full bucket and what refills meanwhile. -/
theorem spentWithin_le (rate burst : K) (key : Key) (log : List (Entry Key K))
    (start finish : K) (admitted : Admitted rate burst log) (ordered : Ordered key log)
    (opened : start ≤ finish) (positive : 0 ≤ rate) (full : 0 ≤ burst) :
    (spentWithin key start finish log : K) ≤ burst + rate * (finish - start) := by
  induction log with
  | nil =>
      have grown := mul_nonneg positive (sub_nonneg.mpr opened)
      simp only [spentWithin, List.filter_nil, spent_nil, Nat.cast_zero]
      linarith
  | cons head earlier ih =>
      obtain ⟨first, later⟩ := List.pairwise_cons.mp ordered
      have rest := ih admitted.2 later
      by_cases counts : (head.key = key ∧ head.granted = true) ∧
          start ≤ head.time ∧ head.time ≤ finish
      · -- The newest request of the window found a token after paying for all the others.
        obtain ⟨⟨mine, granted⟩, after, before⟩ := counts
        have room := level_since rate burst 1 key earlier start head.time later after positive
          (mine ▸ admitted.1 granted)
        have fewer : spentWithin key start finish earlier ≤ spentSince key start earlier := by
          refine (List.Sublist.countP_le (List.monotone_filter_right earlier ?_))
          intro entry inside
          simp only [decide_eq_true_eq] at inside ⊢
          exact inside.1
        have counted : spentWithin key start finish (head :: earlier) =
            spentWithin key start finish earlier + 1 := by
          simp [spentWithin, after, before, spent_cons, mine, granted]
        have fewerCast : (spentWithin key start finish earlier : K) ≤
            spentSince key start earlier := Nat.cast_le.mpr fewer
        have longer := mul_le_mul_of_nonneg_left (sub_le_sub_right before start) positive
        rw [counted, Nat.cast_add, Nat.cast_one]
        linarith
      · have counted : spentWithin key start finish (head :: earlier) =
            spentWithin key start finish earlier := by
          by_cases inside : start ≤ head.time ∧ head.time ≤ finish
          · have other : ¬ (head.key = key ∧ head.granted = true) := fun mine =>
              counts ⟨mine, inside⟩
            simp [spentWithin, inside, spent_cons, other]
          · simp [spentWithin, inside]
        rwa [counted]

end Metering
