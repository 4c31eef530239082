import Mathlib.Order.Bounds.Defs
import MadRpc.Metrics.Concurrency

set_option autoImplicit false

/-!
# Calls of `get_monotonic_timestamp` side by side

The load and the weak compare-and-swap are steps of their own, and a swap may fail for no reason.
-/

namespace MadRpc

inductive TimestampCall where
  | reading
  | loading (systemTime : UInt64)
  | exchanging (systemTime last : UInt64)
  | returned (timestamp : UInt64)
  deriving DecidableEq, Repr

def TimestampCall.advance (systemTime : Option UInt64) (spurious : Bool) (clock : TimestampClock) :
    TimestampCall → TimestampClock × TimestampCall
  | .reading =>
      let (clock, systemTime) := clock.readSystemTime systemTime
      (clock, .loading systemTime)
  | .loading systemTime => (clock, .exchanging systemTime clock.lastTimestamp)
  | .exchanging systemTime last =>
      let newTimestamp := max systemTime (last + 1)
      if clock.lastTimestamp = last ∧ spurious = false then
        ({ clock with lastTimestamp := newTimestamp }, .returned newTimestamp)
      else (clock, .loading systemTime)
  | .returned timestamp => (clock, .returned timestamp)

structure TimestampCalls where
  clock : TimestampClock
  -- Every call made so far, in the order in which they began.
  calls : List TimestampCall

namespace TimestampCalls

inductive Input where
  | begin
  | advance (index : Nat) (systemTime : Option UInt64) (spurious : Bool)

def step (state : TimestampCalls) : Input → TimestampCalls
  | .begin => { state with calls := state.calls ++ [.reading] }
  | .advance index systemTime spurious =>
      match state.calls[index]? with
      | some call =>
          let (clock, call) := call.advance systemTime spurious state.clock
          ⟨clock, state.calls.set index call⟩
      | none => state

def machine : Machine TimestampCalls Input Unit where
  step state input := (state.step input, ())

def NoOverflow (state : TimestampCalls) : Input → Prop
  | .begin => True
  | .advance index _ _ =>
      match state.calls[index]? with
      | some (.loading _) => state.clock.lastTimestamp.toNat + 1 < UInt64.size
      | _ => True

instance decidableNoOverflow (state : TimestampCalls) :
    (input : Input) → Decidable (state.NoOverflow input)
  | .begin => inferInstanceAs (Decidable True)
  | .advance index _ _ =>
      match found : state.calls[index]? with
      | some (.loading _) =>
          decidable_of_iff (state.clock.lastTimestamp.toNat + 1 < UInt64.size)
            (by rw [NoOverflow, found])
      | some .reading | some (.exchanging ..) | some (.returned _) | none =>
          isTrue (by rw [NoOverflow, found]; trivial)

def published (state : TimestampCalls) : Set UInt64 :=
  {timestamp | .returned timestamp ∈ state.calls}

/-- The first state, whatever the process has left in the statics. -/
def start (clock : TimestampClock) : TimestampCalls := ⟨clock, []⟩

end TimestampCalls

namespace TimestampCall

inductive Advances (clock : TimestampClock) : TimestampCall → TimestampClock → TimestampCall → Prop
  | read (systemTime : Option UInt64) :
      Advances clock .reading (clock.readSystemTime systemTime).1
        (.loading (clock.readSystemTime systemTime).2)
  | loaded (systemTime : UInt64) :
      Advances clock (.loading systemTime) clock (.exchanging systemTime clock.lastTimestamp)
  | failed (systemTime last : UInt64) :
      Advances clock (.exchanging systemTime last) clock (.loading systemTime)
  | exchanged (systemTime : UInt64) :
      Advances clock (.exchanging systemTime clock.lastTimestamp) (clock.exchange systemTime).1
        (.returned (clock.exchange systemTime).2)
  | rested (timestamp : UInt64) :
      Advances clock (.returned timestamp) clock (.returned timestamp)

/-- Of the steps of the loop, only the swap that succeeds writes, and it does all of `exchange`. -/
theorem advance_advances (systemTime : Option UInt64) (spurious : Bool) (clock : TimestampClock)
    (call : TimestampCall) :
    Advances clock call (call.advance systemTime spurious clock).1
      (call.advance systemTime spurious clock).2 := by
  cases call with
  | reading => exact .read systemTime
  | loading reading => exact .loaded reading
  | exchanging reading last =>
      rw [advance]
      split
      next swapped =>
        obtain ⟨rfl, -⟩ := swapped
        exact .exchanged reading
      next => exact .failed reading last
  | returned timestamp => exact .rested timestamp

/-- What the call holds of the shared word is behind it, and what it has returned is not ahead. -/
def Bounded (clock : TimestampClock) : TimestampCall → Prop
  | .reading | .loading _ => True
  | .exchanging _ last => last ≤ clock.lastTimestamp ∧ last.toNat + 1 < UInt64.size
  | .returned timestamp => timestamp ≤ clock.lastTimestamp

theorem Bounded.mono {clock later : TimestampClock} {call : TimestampCall}
    (bounded : call.Bounded clock) (le : clock.lastTimestamp ≤ later.lastTimestamp) :
    call.Bounded later := by
  cases call with
  | reading | loading => trivial
  | exchanging systemTime last => exact ⟨UInt64.le_trans bounded.1 le, bounded.2⟩
  | returned timestamp => exact UInt64.le_trans bounded le

theorem readSystemTime_lastTimestamp (clock : TimestampClock) (systemTime : Option UInt64) :
    (clock.readSystemTime systemTime).1.lastTimestamp = clock.lastTimestamp := by
  cases systemTime <;> rfl

theorem lt_exchange {clock : TimestampClock} (systemTime : UInt64)
    (room : clock.lastTimestamp.toNat + 1 < UInt64.size) :
    clock.lastTimestamp < (clock.exchange systemTime).2 := by
  have next := toNat_succ room
  rw [UInt64.lt_iff_toNat_lt, TimestampClock.exchange, toNat_max]
  omega

variable {clock after : TimestampClock} {call next : TimestampCall}

theorem Advances.le_lastTimestamp (advances : Advances clock call after next)
    (bounded : call.Bounded clock) : clock.lastTimestamp ≤ after.lastTimestamp := by
  cases advances with
  | read => exact (readSystemTime_lastTimestamp clock _).symm ▸ UInt64.le_refl _
  | loaded | failed | rested => exact UInt64.le_refl _
  | exchanged systemTime => exact UInt64.le_of_lt (lt_exchange systemTime bounded.2)

theorem Advances.bounded (advances : Advances clock call after next)
    (bounded : call.Bounded clock)
    (room : ∀ systemTime, call = .loading systemTime →
      clock.lastTimestamp.toNat + 1 < UInt64.size) : next.Bounded after := by
  cases advances with
  | read | failed => trivial
  | loaded systemTime => exact ⟨UInt64.le_refl _, room systemTime rfl⟩
  | exchanged systemTime => exact UInt64.le_refl _
  | rested => exact bounded

theorem Advances.quiet_or_publishes (advances : Advances clock call after next)
    (bounded : call.Bounded clock) :
    (after.lastTimestamp = clock.lastTimestamp ∧
      ∀ timestamp, next = .returned timestamp ↔ call = .returned timestamp) ∨
    (next = .returned after.lastTimestamp ∧ clock.lastTimestamp < after.lastTimestamp) := by
  cases advances with
  | read => exact .inl ⟨readSystemTime_lastTimestamp clock _, by simp⟩
  | loaded | failed => exact .inl ⟨rfl, by simp⟩
  | rested => exact .inl ⟨rfl, fun _ => Iff.rfl⟩
  | exchanged systemTime => exact .inr ⟨rfl, lt_exchange systemTime bounded.2⟩

def Above (bound : UInt64) : TimestampCall → Prop
  | .reading | .loading _ => True
  | .exchanging _ last => bound ≤ last
  | .returned timestamp => bound < timestamp

theorem Advances.above {bound : UInt64} (advances : Advances clock call after next)
    (bounded : call.Bounded clock) (reached : bound ≤ clock.lastTimestamp)
    (above : call.Above bound) : next.Above bound := by
  cases advances with
  | read | failed => trivial
  | loaded => exact reached
  | exchanged systemTime =>
      exact Std.lt_of_le_of_lt reached (lt_exchange systemTime bounded.2)
  | rested => exact above

end TimestampCall

namespace TimestampCalls

open TimestampCall

structure Ordered (initial : UInt64) (state : TimestampCalls) : Prop where
  bounded : ∀ (index : Nat) call, state.calls[index]? = some call → call.Bounded state.clock
  distinct : ∀ (first second : Nat) timestamp,
    state.calls[first]? = some (.returned timestamp) →
    state.calls[second]? = some (.returned timestamp) → first = second
  last : state.clock.lastTimestamp = initial ∧ (∀ timestamp, .returned timestamp ∉ state.calls) ∨
    .returned state.clock.lastTimestamp ∈ state.calls

structure Later (count : Nat) (bound : UInt64) (state : TimestampCalls) : Prop where
  begun : count ≤ state.calls.length
  reached : bound ≤ state.clock.lastTimestamp
  above : ∀ (index : Nat) call, count ≤ index → state.calls[index]? = some call →
    call.Above bound

theorem step_moves (state : TimestampCalls) (index : Nat) (systemTime : Option UInt64)
    (spurious : Bool) :
    state.step (.advance index systemTime spurious) = state ∨
      ∃ call after next, state.calls[index]? = some call ∧
        Advances state.clock call after next ∧
        state.step (.advance index systemTime spurious) = ⟨after, state.calls.set index next⟩ := by
  rw [step]
  cases found : state.calls[index]? with
  | none => exact .inl rfl
  | some call =>
      exact .inr ⟨call, _, _, rfl, advance_advances systemTime spurious state.clock call, rfl⟩

theorem run_alone (state : TimestampCalls) (systemTime : Option UInt64) :
    machine.run state [.begin, .advance state.calls.length systemTime false,
        .advance state.calls.length none false, .advance state.calls.length none false] =
      ⟨(state.clock.getMonotonicTimestamp systemTime).1,
        state.calls ++ [.returned (state.clock.getMonotonicTimestamp systemTime).2]⟩ := by
  cases systemTime <;>
    simp [machine, step, advance, TimestampClock.readSystemTime,
      TimestampClock.getMonotonicTimestamp]

theorem set_getElem? {calls : List TimestampCall} {index : Nat} {call : TimestampCall}
    (found : calls[index]? = some call) (next : TimestampCall) (other : Nat) :
    (calls.set index next)[other]? = if index = other then some next else calls[other]? := by
  obtain ⟨within, -⟩ := List.getElem?_eq_some_iff.mp found
  rw [List.getElem?_set, if_pos within]

theorem mem_set_iff {calls : List TimestampCall} {index : Nat} {call next : TimestampCall}
    (found : calls[index]? = some call) (timestamp : UInt64)
    (same : next = .returned timestamp ↔ call = .returned timestamp) :
    .returned timestamp ∈ calls.set index next ↔ .returned timestamp ∈ calls := by
  rw [List.mem_iff_getElem?, List.mem_iff_getElem?]
  refine exists_congr fun other => ?_
  rw [set_getElem? found]
  split
  next here =>
    rw [← here, found, Option.some.injEq, Option.some.injEq, same]
  next => exact Iff.rfl

section Moves

variable {state : TimestampCalls} {index : Nat} {call next : TimestampCall}
  {after : TimestampClock} (found : state.calls[index]? = some call)
  (advances : Advances state.clock call after next)
include found advances

theorem Ordered.moved {initial : UInt64} (ordered : Ordered initial state)
    (room : ∀ systemTime, call = .loading systemTime →
      state.clock.lastTimestamp.toNat + 1 < UInt64.size) :
    Ordered initial ⟨after, state.calls.set index next⟩ := by
  have here := ordered.bounded index call found
  have moves := advances.quiet_or_publishes here
  refine ⟨fun other at_ there => ?_, fun first second timestamp one two => ?_, ?_⟩
  · rw [set_getElem? found] at there
    split at there
    next =>
      cases there
      exact advances.bounded here room
    next => exact (ordered.bounded other at_ there).mono (advances.le_lastTimestamp here)
  · rw [set_getElem? found] at one two
    -- A timestamp published now lies above all that were published before.
    have fresh (other : Nat) (there : state.calls[other]? = some (.returned timestamp))
        (now : next = .returned timestamp) : index = other := by
      rcases moves with ⟨-, same⟩ | ⟨published, ahead⟩
      · exact ordered.distinct index other timestamp (found.trans (congrArg some
          ((same timestamp).mp now))) there
      · cases published.symm.trans now
        exact absurd (ordered.bounded other _ there) (UInt64.not_le.mpr ahead)
    split at one <;> split at two
    next same same' => exact same.symm.trans same'
    next same _ => exact same.symm.trans (fresh second two (Option.some.inj one))
    next _ same => exact (fresh first one (Option.some.inj two)).symm.trans same
    next => exact ordered.distinct first second timestamp one two
  · rcases moves with ⟨still, same⟩ | ⟨published, -⟩
    · have kept (timestamp : UInt64) := mem_set_iff found timestamp (same timestamp)
      simp only [still, kept]
      exact ordered.last
    · refine .inr (List.mem_iff_getElem?.mpr ⟨index, ?_⟩)
      rw [set_getElem? found, if_pos rfl, published]

theorem Later.moved {count : Nat} {bound : UInt64} (later : Later count bound state)
    (bounded : call.Bounded state.clock) :
    Later count bound ⟨after, state.calls.set index next⟩ := by
  refine ⟨(List.length_set ..).symm ▸ later.begun,
    UInt64.le_trans later.reached (advances.le_lastTimestamp bounded),
    fun other at_ behind there => ?_⟩
  rw [set_getElem? found] at there
  split at there
  next same =>
    cases there
    exact advances.above bounded later.reached (later.above index call (same ▸ behind) found)
  next => exact later.above other at_ behind there

end Moves

theorem getElem?_begin {state : TimestampCalls} {index : Nat} {call : TimestampCall}
    (found : (state.step .begin).calls[index]? = some call) :
    state.calls[index]? = some call ∨ call = .reading := by
  rw [step, List.getElem?_append] at found
  split at found
  next => exact .inl found
  next =>
    have member := List.mem_of_getElem? found
    exact .inr (List.mem_singleton.mp member)

theorem Ordered.step {initial : UInt64} {state : TimestampCalls} (ordered : Ordered initial state)
    (input : Input) (room : state.NoOverflow input) : Ordered initial (state.step input) := by
  cases input with
  | begin =>
      refine ⟨fun index call found => ?_, fun first second timestamp one two => ?_, ?_⟩
      · rcases getElem?_begin found with earlier | rfl
        · exact ordered.bounded index call earlier
        · trivial
      · exact ordered.distinct first second timestamp
          ((getElem?_begin one).resolve_right (by simp))
          ((getElem?_begin two).resolve_right (by simp))
      · simpa [TimestampCalls.step] using ordered.last
  | advance index systemTime spurious =>
      rcases step_moves state index systemTime spurious with same | moved
      · exact same.symm ▸ ordered
      · obtain ⟨call, after, next, found, advances, same⟩ := moved
        exact same.symm ▸ ordered.moved found advances
          fun systemTime loading => by rwa [NoOverflow, found, loading] at room

theorem Later.step {count : Nat} {bound initial : UInt64} {state : TimestampCalls}
    (later : Later count bound state) (ordered : Ordered initial state) (input : Input) :
    Later count bound (state.step input) := by
  cases input with
  | begin =>
      refine ⟨?_, later.reached, fun index call behind found => ?_⟩
      · rw [TimestampCalls.step, List.length_append]
        exact Nat.le_add_right_of_le later.begun
      · rcases getElem?_begin found with earlier | rfl
        · exact later.above index call behind earlier
        · trivial
  | advance index systemTime spurious =>
      rcases step_moves state index systemTime spurious with same | moved
      · exact same.symm ▸ later
      · obtain ⟨call, after, next, found, advances, same⟩ := moved
        exact same.symm ▸ later.moved found advances (ordered.bounded index call found)

theorem Ordered.run {initial : UInt64} {state : TimestampCalls} (ordered : Ordered initial state)
    (inputs : List Input) (room : machine.EachStep NoOverflow state inputs) :
    Ordered initial (machine.run state inputs) :=
  machine.run_invariant_of_steps _ NoOverflow (fun _ input ordered => ordered.step input)
    state inputs ordered room

theorem Later.run {count : Nat} {bound initial : UInt64} {state : TimestampCalls}
    (later : Later count bound state) (ordered : Ordered initial state) (inputs : List Input)
    (room : machine.EachStep NoOverflow state inputs) :
    Later count bound (machine.run state inputs) :=
  (machine.run_invariant_of_steps
    (fun state => Ordered initial state ∧ Later count bound state) NoOverflow
    (fun _ input holds room => ⟨holds.1.step input room, holds.2.step holds.1 input⟩)
    state inputs ⟨ordered, later⟩ room).2

theorem start_ordered (clock : TimestampClock) :
    Ordered clock.lastTimestamp (start clock) where
  bounded _ _ found := by cases found
  distinct _ _ _ found := by cases found
  last := .inl ⟨rfl, fun _ => List.not_mem_nil⟩

theorem timestamps_monotonic (clock : TimestampClock) (before after : List Input)
    (room : machine.EachStep NoOverflow (start clock) (before ++ after)) :
    let early := machine.run (start clock) before
    let late := machine.run (start clock) (before ++ after)
    (∀ (first second : Nat) timestamp, late.calls[first]? = some (.returned timestamp) →
      late.calls[second]? = some (.returned timestamp) → first = second) ∧
    (∀ earlier (index : Nat) later, earlier ∈ early.published → early.calls.length ≤ index →
      late.calls[index]? = some (.returned later) → earlier < later) ∧
    (late.clock.lastTimestamp = clock.lastTimestamp ∧ late.published = ∅ ∨
      IsGreatest late.published late.clock.lastTimestamp) := by
  have ordered := (start_ordered clock).run before
    ((machine.eachStep_append NoOverflow _ before after).mp room).1
  have last := (start_ordered clock).run (before ++ after) room
  refine ⟨last.distinct, fun earlier index later returned behind found => ?_, ?_⟩
  · obtain ⟨place, there⟩ := List.mem_iff_getElem?.mp returned
    have initial : Later (machine.run (start clock) before).calls.length earlier
        (machine.run (start clock) before) := by
      refine ⟨Nat.le_refl _, ordered.bounded place _ there, fun other call behind found => ?_⟩
      exact absurd (List.getElem?_eq_some_iff.mp found).1 (Nat.not_lt.mpr behind)
    have ran := initial.run ordered after
      ((machine.eachStep_append NoOverflow _ before after).mp room).2
    rw [← Machine.run_append] at ran
    exact ran.above index _ behind found
  · rcases last.last with ⟨same, none'⟩ | member
    · exact .inl ⟨same, Set.eq_empty_iff_forall_notMem.mpr none'⟩
    · refine .inr ⟨member, fun timestamp returned => ?_⟩
      obtain ⟨place, there⟩ := List.mem_iff_getElem?.mp returned
      exact last.bounded place _ there

/-- Two calls load the same word, and the one that loses the swap returns the later timestamp. -/
theorem timestamps_monotonic_witness :
    let inputs := [.begin, .begin, .advance 0 (some 40) false, .advance 1 none false,
      .advance 0 none false, .advance 1 none false, .advance 0 none false, .advance 1 none false,
      .advance 1 none false, .advance 1 none true, .advance 1 none false, .advance 1 none false]
    let late := machine.run (start .initial) ([] ++ inputs)
    late.calls = [.returned 40, .returned 41] ∧
      (∀ (first second : Nat) timestamp, late.calls[first]? = some (.returned timestamp) →
        late.calls[second]? = some (.returned timestamp) → first = second) :=
  ⟨by decide, (timestamps_monotonic .initial [] _ (by decide)).1⟩

end TimestampCalls

end MadRpc
