import Mathlib.Data.List.Basic

set_option autoImplicit false

/-!
# A lock that a panic poisons

Whoever panics with the lock leaves it free, and nobody is let in again.
-/

inductive LockEvent where
  | acquired (owner : Nat)
  | released (owner : Nat)
  | panicked (owner : Nat)
  | refused (owner : Nat)
  deriving DecidableEq, Repr

def LockEvent.owner : LockEvent → Nat
  | .acquired owner | .released owner | .panicked owner | .refused owner => owner

structure PoisonLock where
  holder : Option Nat
  poisoned : Bool
  deriving DecidableEq, Repr

namespace PoisonLock

def new : PoisonLock where
  holder := none
  poisoned := false

/-- Nothing while the lock is held. -/
def lock (owner : Nat) (lock : PoisonLock) : Option (PoisonLock × LockEvent) :=
  match lock with
  | ⟨some _, _⟩ => none
  | ⟨none, true⟩ => some (⟨none, true⟩, .refused owner)
  | ⟨none, false⟩ => some (⟨some owner, false⟩, .acquired owner)

def unlock (lock : PoisonLock) : PoisonLock := { lock with holder := none }

def panic (_ : PoisonLock) : PoisonLock := ⟨none, true⟩

def after (lock : PoisonLock) : LockEvent → Option PoisonLock
  | .acquired owner => if lock = new then some ⟨some owner, false⟩ else none
  | .refused _ => if lock = ⟨none, true⟩ then some lock else none
  | .released owner => if lock.holder = some owner then some lock.unlock else none
  | .panicked owner => if lock.holder = some owner then some lock.panic else none

theorem after_released {lock : PoisonLock} {owner : Nat} (held : lock.holder = some owner) :
    lock.after (.released owner) = some lock.unlock := if_pos held

theorem after_panicked {lock : PoisonLock} {owner : Nat} (held : lock.holder = some owner) :
    lock.after (.panicked owner) = some lock.panic := if_pos held

theorem after_holder {lock later : PoisonLock} {event : LockEvent}
    (next : lock.after event = some later) {owner : Nat} (held : lock.holder = some owner) :
    event.owner = owner := by
  cases event with
  | acquired =>
      obtain ⟨rfl, -⟩ := Option.ite_none_right_eq_some.mp next
      cases held
  | refused =>
      obtain ⟨rfl, -⟩ := Option.ite_none_right_eq_some.mp next
      cases held
  | released | panicked =>
      obtain ⟨here, -⟩ := Option.ite_none_right_eq_some.mp next
      exact Option.some.inj (here.symm.trans held)

def follow : PoisonLock → List LockEvent → Option PoisonLock
  | lock, [] => some lock
  | lock, event :: rest => (lock.after event).bind (follow · rest)

theorem follow_append (lock : PoisonLock) (before later : List LockEvent) :
    lock.follow (before ++ later) = (lock.follow before).bind (follow · later) := by
  induction before generalizing lock with
  | nil => rfl
  | cons event rest ih =>
      rw [List.cons_append, follow, follow]
      cases lock.after event with
      | none => rfl
      | some next => exact ih next

theorem follow_snoc {lock middle : PoisonLock} {events : List LockEvent}
    (followed : lock.follow events = some middle) (event : LockEvent) :
    lock.follow (events ++ [event]) = middle.after event := by
  rw [follow_append, followed]
  cases told : middle.after event <;> simp [follow, told]

theorem after_lock {lock later : PoisonLock} {owner : Nat} {event : LockEvent}
    (locked : lock.lock owner = some (later, event)) : lock.after event = some later := by
  rcases lock with ⟨holder, poisoned⟩
  cases holder with
  | some other => cases locked
  | none => cases poisoned <;> cases locked <;> rfl

theorem lock_cases {lock later : PoisonLock} {owner : Nat} {event : LockEvent}
    (locked : lock.lock owner = some (later, event)) :
    (event = .acquired owner ∧ later = ⟨some owner, false⟩) ∨
      (event = .refused owner ∧ later = lock ∧ lock = ⟨none, true⟩) := by
  rcases lock with ⟨holder, poisoned⟩
  cases holder with
  | some other => cases locked
  | none =>
      cases poisoned <;> cases locked
      · exact .inl ⟨rfl, rfl⟩
      · exact .inr ⟨rfl, rfl, rfl⟩

def sections (owners : List Nat) : List LockEvent :=
  owners.flatMap fun owner => [.acquired owner, .released owner]

/-- One owner after another, until one panics and all later ones are refused. -/
inductive Serial : PoisonLock → List LockEvent → Prop where
  | free (owners : List Nat) : Serial new (sections owners)
  | held (owners : List Nat) (owner : Nat) :
      Serial ⟨some owner, false⟩ (sections owners ++ [.acquired owner])
  | poisoned (owners : List Nat) (owner : Nat) (others : List Nat) :
      Serial ⟨none, true⟩ (sections owners ++ .acquired owner :: .panicked owner ::
        others.map .refused)

theorem sections_snoc (owners : List Nat) (owner : Nat) :
    sections (owners ++ [owner]) = sections owners ++ [.acquired owner, .released owner] := by
  simp [sections]

theorem Serial.after {lock later : PoisonLock} {events : List LockEvent}
    (serial : Serial lock events) {event : LockEvent} (next : lock.after event = some later) :
    Serial later (events ++ [event]) := by
  cases serial with
  | free owners =>
      cases event with
      | acquired owner =>
          cases next
          exact .held owners owner
      | released | panicked | refused => cases next
  | held owners owner =>
      cases event with
      | acquired | refused => cases next
      | released other =>
          simp only [PoisonLock.after, Option.some.injEq, Option.ite_none_right_eq_some] at next
          obtain ⟨rfl, rfl⟩ := next
          rw [List.append_assoc, List.singleton_append, ← sections_snoc]
          exact .free _
      | panicked other =>
          simp only [PoisonLock.after, Option.some.injEq, Option.ite_none_right_eq_some] at next
          obtain ⟨rfl, rfl⟩ := next
          rw [List.append_assoc]
          exact .poisoned owners owner []
  | poisoned owners owner others =>
      cases event with
      | acquired | released | panicked => cases next
      | refused other =>
          cases next
          rw [List.append_assoc, List.cons_append, List.cons_append, ← List.map_singleton,
            ← List.map_append]
          exact .poisoned owners owner (others ++ [other])

theorem serial_of_follow {lock later : PoisonLock} {before events : List LockEvent}
    (serial : Serial lock before) (followed : lock.follow events = some later) :
    Serial later (before ++ events) := by
  induction events generalizing lock before with
  | nil =>
      cases followed
      rwa [List.append_nil]
  | cons event rest ih =>
      obtain ⟨next, told, remaining⟩ := Option.bind_eq_some_iff.mp followed
      simpa using ih (serial.after told) remaining

theorem serial_of_new {later : PoisonLock} {events : List LockEvent}
    (followed : new.follow events = some later) : Serial later events :=
  serial_of_follow (.free []) followed

theorem Serial.last_of_holder {lock : PoisonLock} {events : List LockEvent}
    (serial : Serial lock events) {owner : Nat} (holder : lock.holder = some owner) :
    events.getLast? = some (.acquired owner) := by
  cases serial with
  | free | poisoned => cases holder
  | held owners owner =>
      cases holder
      exact List.getLast?_concat

/-- Unless somebody comes out, at most one gets in. -/
theorem Serial.of_unreleased {lock : PoisonLock} {events : List LockEvent}
    (serial : Serial lock events) (unreleased : ∀ owner, .released owner ∉ events) :
    events = [] ∨ ∃ owner, events = [.acquired owner] ∨
      ∃ others : List Nat, events = .acquired owner :: .panicked owner :: others.map .refused := by
  have none' (owners : List Nat) (later : List LockEvent)
      (same : events = sections owners ++ later) : owners = [] := by
    refine List.eq_nil_iff_forall_not_mem.mpr fun owner member => unreleased owner ?_
    have out : LockEvent.released owner ∈ [LockEvent.acquired owner, .released owner] :=
      List.mem_cons_of_mem _ List.mem_cons_self
    rw [same]
    exact List.mem_append_left _ (List.mem_flatMap.mpr ⟨owner, member, out⟩)
  cases serial with
  | free owners =>
      obtain rfl := none' owners [] (List.append_nil _).symm
      exact .inl rfl
  | held owners owner =>
      obtain rfl := none' owners _ rfl
      exact .inr ⟨owner, .inl rfl⟩
  | poisoned owners owner others =>
      obtain rfl := none' owners _ rfl
      exact .inr ⟨owner, .inr ⟨others, rfl⟩⟩

end PoisonLock
