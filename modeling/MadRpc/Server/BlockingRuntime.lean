import MadRpc.Server.DistributedCalls
import MadRpc.Shared.Machine
import MadRpc.Shared.PoisonLock

set_option autoImplicit false

/-!
# The runtime that the synchronous calls of a process share

A step is one access to `BLOCKING_RUNTIME` or to a mutex in it, by one of any number of threads.
-/

namespace MadRpc

/-- What may be done in a thread that is, or is not, inside a runtime. What may not be panics. -/
structure Tokio where
  blocksOn : Bool → Bool
  drops : Bool → Bool

structure Tokio.Documented (tokio : Tokio) : Prop where
  blocksOn : ∀ inRuntime, tokio.blocksOn inRuntime = !inRuntime
  drops : ∀ inRuntime, tokio.drops inRuntime = !inRuntime

structure SharedRuntimes where
  -- `BLOCKING_RUNTIME`.
  runtime : Option Nat
  created : Nat
  -- The mutex around each runtime.
  locks : Nat → PoisonLock

namespace SharedRuntimes

def initial : SharedRuntimes where
  runtime := none
  created := 0
  locks _ := .new

def setLock (runtime : Nat) (lock : PoisonLock) (shared : SharedRuntimes) : SharedRuntimes :=
  { shared with locks := Function.update shared.locks runtime lock }

@[simp]
theorem runtime_setLock (runtime : Nat) (lock : PoisonLock) (shared : SharedRuntimes) :
    (shared.setLock runtime lock).runtime = shared.runtime := rfl

@[simp]
theorem locks_setLock (runtime : Nat) (lock : PoisonLock) (shared : SharedRuntimes) :
    (shared.setLock runtime lock).locks runtime = lock := Function.update_self _ _ _

theorem locks_setLock_of_ne {runtime other : Nat} (different : other ≠ runtime)
    (lock : PoisonLock) (shared : SharedRuntimes) :
    (shared.setLock runtime lock).locks other = shared.locks other :=
  Function.update_of_ne different _ _

end SharedRuntimes

/-! ## One `callSync` -/

inductive SyncOutcome where
  | returned (value : JsValue Nat) (heap : JsHeap)
  | threw (message : String)
  | panicked

def SyncOutcome.ofResult : Except String (JsValue Nat × JsHeap) → SyncOutcome
  | .ok (value, heap) => .returned value heap
  | .error message => .threw message

def lockFailed : String :=
  "Failed to lock runtime: poisoned lock: another task failed inside"

inductive SyncPoint where
  | getting
  | creating
  -- With a runtime of its own.
  | setting (own : Nat)
  | locking (runtime : Nat)
  -- With the guard.
  | blocking (runtime : Nat)
  -- The call of the client is under way.
  | calling (runtime : Nat)
  | finished (outcome : SyncOutcome)

structure SyncCall where
  inRuntime : Bool
  heap : JsHeap
  method : String
  params : Value
  point : SyncPoint

structure SyncMeets where
  created : Except String Unit
  requestId : UInt64
  exchange : JsonRpcRequest → Nat → Exchange

structure SyncStep where
  shared : SharedRuntimes
  point : SyncPoint
  told : Option (Nat × LockEvent)

section

variable (boa : Boa) (tokio : Tokio) (retry : MadrpcClient.RetryConfig)

def SyncCall.answer (meets : SyncMeets) (call : SyncCall) : SyncOutcome :=
  let request := MadrpcClient.request call.method call.params meets.requestId
  .ofResult
    (callSyncResult boa (MadrpcClient.call retry (meets.exchange request)).result call.heap)

/-- `get_blocking_runtime` up to the lock, and then the rest of `callSync`. -/
def SyncCall.step (index : Nat) (meets : SyncMeets) (shared : SharedRuntimes) (call : SyncCall) :
    SyncStep :=
  match call.point with
  | .getting =>
      match shared.runtime with
      | some runtime => ⟨shared, .locking runtime, none⟩
      | none => ⟨shared, .creating, none⟩
  | .creating =>
      match meets.created with
      | .error err =>
          ⟨shared, .finished (.threw ("Failed to get blocking runtime: " ++ err)), none⟩
      | .ok () => ⟨{ shared with created := shared.created + 1 }, .setting shared.created, none⟩
  | .setting own =>
      match shared.runtime with
      | none => ⟨{ shared with runtime := some own }, .locking own, none⟩
      -- Its own one is dropped.
      | some kept =>
          ⟨shared, if tokio.drops call.inRuntime then .locking kept else .finished .panicked, none⟩
  | .locking runtime =>
      match (shared.locks runtime).lock index with
      | none => ⟨shared, .locking runtime, none⟩
      | some (lock, .refused owner) =>
          ⟨shared.setLock runtime lock, .finished (.threw lockFailed),
            some (runtime, .refused owner)⟩
      | some (lock, event) =>
          ⟨shared.setLock runtime lock, .blocking runtime, some (runtime, event)⟩
  | .blocking runtime =>
      if tokio.blocksOn call.inRuntime then ⟨shared, .calling runtime, none⟩
      -- The guard is dropped by a panic.
      else
        ⟨shared.setLock runtime (shared.locks runtime).panic, .finished .panicked,
          some (runtime, .panicked index)⟩
  | .calling runtime =>
      ⟨shared.setLock runtime (shared.locks runtime).unlock,
        .finished (call.answer boa retry meets), some (runtime, .released index)⟩
  | .finished outcome => ⟨shared, .finished outcome, none⟩

end

/-! ## The calls of a process -/

structure SyncCalls where
  shared : SharedRuntimes
  calls : List SyncCall

inductive SyncInput where
  | begin (inRuntime : Bool) (heap : JsHeap) (depth : Nat) (args : List (JsValue Nat))
  | step (index : Nat) (meets : SyncMeets)

namespace SyncCalls

def initial : SyncCalls where
  shared := .initial
  calls := []

/-- The arguments are looked at before the runtime is. -/
def begun (boa : Boa) (inRuntime : Bool) (heap : JsHeap) (depth : Nat)
    (args : List (JsValue Nat)) : Option SyncCall :=
  (callArguments boa heap depth args).map fun
    | .error message => ⟨inRuntime, heap, "", .null, .finished (.threw message)⟩
    | .ok (method, params) => ⟨inRuntime, heap, method, params, .getting⟩

def machine (boa : Boa) (tokio : Tokio) (retry : MadrpcClient.RetryConfig) :
    Machine SyncCalls SyncInput (Option (Nat × LockEvent)) where
  step state
    | .begin inRuntime heap depth args =>
        ({ state with
            calls := state.calls ++ (begun boa inRuntime heap depth args).toList }, none)
    | .step index meets =>
        match state.calls[index]? with
        | none => (state, none)
        | some call =>
            let stepped := call.step boa tokio retry index meets state.shared
            (⟨stepped.shared, state.calls.set index { call with point := stepped.point }⟩,
              stepped.told)

def told (boa : Boa) (tokio : Tokio) (retry : MadrpcClient.RetryConfig)
    (inputs : List SyncInput) : List (Nat × LockEvent) :=
  (machine boa tokio retry).told initial inputs

end SyncCalls

/-! ## What a step changes for the others -/

inductive SharedRuntimes.Changes (index : Nat) (shared : SharedRuntimes) :
    SharedRuntimes → Option (Nat × LockEvent) → Prop where
  | silent {later : SharedRuntimes} (locks : later.locks = shared.locks)
      (kept : ∀ runtime, shared.runtime = some runtime → later.runtime = some runtime) :
      Changes index shared later none
  | told {runtime : Nat} {event : LockEvent} {lock : PoisonLock}
      (here : shared.runtime = some runtime)
      (after : (shared.locks runtime).after event = some lock) (own : event.owner = index) :
      Changes index shared (shared.setLock runtime lock) (some (runtime, event))

def SyncCall.Held (index : Nat) (shared : SharedRuntimes) (call : SyncCall) : Prop :=
  match call.point with
  | .locking runtime => shared.runtime = some runtime
  | .blocking runtime =>
      shared.runtime = some runtime ∧ (shared.locks runtime).holder = some index
  | .calling runtime =>
      shared.runtime = some runtime ∧ (shared.locks runtime).holder = some index ∧
        call.inRuntime = false
  | _ => True

section

variable {boa : Boa} {tokio : Tokio} {retry : MadrpcClient.RetryConfig} {index : Nat}
  {shared later : SharedRuntimes} {call : SyncCall} {told : Option (Nat × LockEvent)}

theorem SyncCall.step_changes (held : call.Held index shared) (meets : SyncMeets) :
    shared.Changes index (call.step boa tokio retry index meets shared).shared
      (call.step boa tokio retry index meets shared).told := by
  unfold SyncCall.step
  unfold SyncCall.Held at held
  cases point : call.point with
  | getting =>
      simp only
      split <;> exact .silent rfl fun _ => id
  | creating =>
      simp only
      split <;> exact .silent rfl fun _ => id
  | setting own =>
      simp only
      split
      next unset => exact .silent rfl fun _ set' => absurd (unset.symm.trans set') nofun
      next => exact .silent rfl fun _ => id
  | locking runtime =>
      simp only [point] at held ⊢
      split
      next => exact .silent rfl fun _ => id
      next locked =>
        refine .told held (PoisonLock.after_lock locked) ?_
        rcases PoisonLock.lock_cases locked with ⟨told, -⟩ | ⟨told, -⟩ <;> cases told
        rfl
      next _ locked =>
        refine .told held (PoisonLock.after_lock locked) ?_
        rcases PoisonLock.lock_cases locked with ⟨rfl, -⟩ | ⟨rfl, -⟩ <;> rfl
  | blocking runtime =>
      simp only [point] at held ⊢
      split
      next => exact .silent rfl fun _ => id
      next => exact .told held.1 (PoisonLock.after_panicked held.2) rfl
  | calling runtime =>
      simp only [point] at held ⊢
      exact .told held.1 (PoisonLock.after_released held.2.1) rfl
  | finished => exact .silent rfl fun _ => id

theorem SyncCall.told_released {meets : SyncMeets} {runtime owner : Nat}
    (told : (call.step boa tokio retry index meets shared).told =
      some (runtime, .released owner)) :
    owner = index ∧ call.point = .calling runtime ∧
      (call.step boa tokio retry index meets shared).point =
        .finished (call.answer boa retry meets) := by
  unfold SyncCall.step at told ⊢
  cases point : call.point with
  | finished => simp [point] at told
  | getting | creating | setting =>
      simp only [point] at told
      split at told <;> cases told
  | locking other =>
      simp only [point] at told
      split at told
      next => cases told
      next => cases told
      next locked =>
        rcases PoisonLock.lock_cases locked with ⟨rfl, -⟩ | ⟨rfl, -⟩ <;> cases told
  | blocking other =>
      simp only [point] at told
      split at told <;> cases told
  | calling other =>
      simp only [point] at told
      cases told
      exact ⟨rfl, rfl, rfl⟩

theorem SharedRuntimes.Changes.runtime (changes : shared.Changes index later told) {runtime : Nat}
    (here : shared.runtime = some runtime) : later.runtime = some runtime := by
  cases changes with
  | silent _ kept => exact kept runtime here
  | told => exact here

theorem SharedRuntimes.Changes.holder (changes : shared.Changes index later told) {other : Nat}
    (different : other ≠ index) {runtime : Nat}
    (holds : (shared.locks runtime).holder = some other) :
    (later.locks runtime).holder = some other := by
  cases changes with
  | silent locks _ => rwa [locks]
  | @told changed event lock here after own =>
      have elsewhere : runtime ≠ changed := by
        rintro rfl
        exact different ((PoisonLock.after_holder after holds).symm.trans own)
      rwa [locks_setLock_of_ne elsewhere]

theorem SyncCall.Held.other {other : Nat} (held : call.Held other shared)
    (changes : shared.Changes index later told) (different : other ≠ index) :
    call.Held other later := by
  unfold SyncCall.Held at held ⊢
  cases point : call.point with
  | getting | creating | setting | finished => trivial
  | locking => simp only [point] at held ⊢; exact changes.runtime held
  | blocking =>
      simp only [point] at held ⊢
      exact ⟨changes.runtime held.1, changes.holder different held.2⟩
  | calling =>
      simp only [point] at held ⊢
      exact ⟨changes.runtime held.1, changes.holder different held.2.1, held.2.2⟩

end

/-! ## What the one mutex is told -/

structure SharedRuntimes.Follows (shared : SharedRuntimes) (events : List (Nat × LockEvent)) :
    Prop where
  one : ∀ event ∈ events, shared.runtime = some event.1
  untouched : ∀ runtime, shared.runtime ≠ some runtime → shared.locks runtime = .new
  follow : ∀ runtime, shared.runtime = some runtime →
    PoisonLock.new.follow (events.map Prod.snd) = some (shared.locks runtime)

theorem SharedRuntimes.Follows.changes {index : Nat} {shared later : SharedRuntimes}
    {told : Option (Nat × LockEvent)} {events : List (Nat × LockEvent)}
    (follows : shared.Follows events) (changes : shared.Changes index later told) :
    later.Follows (events ++ told.toList) := by
  cases changes with
  | silent locks kept =>
      rw [Option.toList_none, List.append_nil]
      constructor
      · exact fun event member => kept _ (follows.one event member)
      · intro runtime other
        rw [locks]
        exact follows.untouched runtime fun here => other (kept runtime here)
      · intro runtime here
        rw [locks]
        cases before : shared.runtime with
        | some old =>
            obtain rfl := Option.some.inj ((kept old before).symm.trans here)
            exact follows.follow old before
        | none =>
            have untold : events = [] := List.eq_nil_iff_forall_not_mem.mpr fun event member =>
              absurd (before.symm.trans (follows.one event member)) nofun
            rw [untold, follows.untouched runtime (by rw [before]; exact nofun)]
            rfl
  | @told runtime event lock here after own =>
      rw [Option.toList_some]
      constructor
      · intro other member
        rcases List.mem_append.mp member with old | new
        · exact follows.one other old
        · rw [List.mem_singleton.mp new]
          exact here
      · intro other elsewhere
        have apart : other ≠ runtime := by
          rintro rfl
          exact elsewhere here
        rw [locks_setLock_of_ne apart]
        exact follows.untouched other elsewhere
      · intro other same
        obtain rfl := Option.some.inj (here.symm.trans same)
        rw [locks_setLock, List.map_append,
          show [(runtime, event)].map Prod.snd = [event] from rfl,
          PoisonLock.follow_snoc (follows.follow runtime here)]
        exact after

/-! ## How a call ends -/

/-- What is told of a call is how it has ended. -/
structure SyncCall.Fits (boa : Boa) (retry : MadrpcClient.RetryConfig) (index : Nat)
    (shared : SharedRuntimes) (events : List LockEvent) (call : SyncCall) : Prop where
  held : call.Held index shared
  released : .released index ∈ events → call.inRuntime = false ∧
    ∃ meets, call.point = .finished (call.answer boa retry meets)
  panicked : .panicked index ∈ events → call.inRuntime = true ∧ call.point = .finished .panicked
  refused : .refused index ∈ events → call.point = .finished (.threw lockFailed)
  returned : ∀ value heap, call.point = .finished (.returned value heap) →
    .released index ∈ events
  inside : call.point = .finished .panicked → call.inRuntime = true

section

variable {boa : Boa} {tokio : Tokio} {retry : MadrpcClient.RetryConfig} {index : Nat}
  {shared later : SharedRuntimes} {call : SyncCall} {told : Option (Nat × LockEvent)}
  {events : List LockEvent}

theorem SharedRuntimes.Changes.owner (changes : shared.Changes index later told) {event : LockEvent}
    (member : event ∈ told.toList.map Prod.snd) : event.owner = index := by
  cases changes with
  | silent => exact absurd member List.not_mem_nil
  | told here after own =>
      rw [List.mem_singleton.mp member]
      exact own

theorem SyncCall.Fits.other {other : Nat} (fits : call.Fits boa retry other shared events)
    (changes : shared.Changes index later told) (different : other ≠ index) :
    call.Fits boa retry other later (events ++ told.toList.map Prod.snd) := by
  have old {event : LockEvent} (owner : event.owner = other)
      (member : event ∈ events ++ told.toList.map Prod.snd) : event ∈ events :=
    (List.mem_append.mp member).resolve_right fun new =>
      different (owner.symm.trans (changes.owner new))
  exact {
    held := fits.held.other changes different
    released := fun member => fits.released (old rfl member)
    panicked := fun member => fits.panicked (old rfl member)
    refused := fun member => fits.refused (old rfl member)
    returned := fun value heap same => List.mem_append_left _ (fits.returned value heap same)
    inside := fits.inside }

theorem SyncCall.Fits.untold (fits : call.Fits boa retry index shared events) {here : SyncPoint}
    (point : call.point = here) (going : ∀ outcome, here ≠ .finished outcome) :
    .released index ∉ events ∧ .panicked index ∉ events ∧ .refused index ∉ events := by
  refine ⟨fun member => ?_, fun member => ?_, fun member => ?_⟩
  · obtain ⟨-, meets, ended⟩ := fits.released member
    exact going _ (point.symm.trans ended)
  · exact going _ (point.symm.trans (fits.panicked member).2)
  · exact going _ (point.symm.trans (fits.refused member))

theorem SyncCall.Fits.moved (fits : call.Fits boa retry index shared events) {here : SyncPoint}
    (point : call.point = here) (going : ∀ outcome, here ≠ .finished outcome) (next : SyncPoint)
    (held : { call with point := next }.Held index later)
    (bare : ∀ outcome, next = .finished outcome →
      (∃ message, outcome = .threw message) ∨ outcome = .panicked ∧ call.inRuntime = true) :
    { call with point := next }.Fits boa retry index later
      (events ++ (none : Option (Nat × LockEvent)).toList.map Prod.snd) := by
  obtain ⟨unreleased, unpanicked, unrefused⟩ := fits.untold point going
  rw [Option.toList_none, List.map_nil, List.append_nil]
  exact {
    held := held
    released := fun member => absurd member unreleased
    panicked := fun member => absurd member unpanicked
    refused := fun member => absurd member unrefused
    returned := fun value heap same => by
      rcases bare _ same with ⟨message, other⟩ | ⟨other, -⟩ <;> cases other
    inside := fun same => by
      rcases bare _ same with ⟨message, other⟩ | ⟨-, inside⟩
      · cases other
      · exact inside }

theorem SyncCall.Fits.of_refused (fits : call.Fits boa retry index shared events)
    {here : SyncPoint} (point : call.point = here) (going : ∀ outcome, here ≠ .finished outcome)
    (runtime : Nat) :
    { call with point := .finished (.threw lockFailed) }.Fits boa retry index later
      (events ++ (some (runtime, LockEvent.refused index)).toList.map Prod.snd) := by
  obtain ⟨unreleased, unpanicked, -⟩ := fits.untold point going
  exact {
    held := trivial
    released := by simp [unreleased]
    panicked := by simp [unpanicked]
    refused := fun _ => rfl
    returned := nofun
    inside := nofun }

theorem SyncCall.Fits.of_acquired (fits : call.Fits boa retry index shared events)
    {here : SyncPoint} (point : call.point = here) (going : ∀ outcome, here ≠ .finished outcome)
    {runtime : Nat} (set' : later.runtime = some runtime)
    (holds : (later.locks runtime).holder = some index) :
    { call with point := .blocking runtime }.Fits boa retry index later
      (events ++ (some (runtime, LockEvent.acquired index)).toList.map Prod.snd) := by
  obtain ⟨unreleased, unpanicked, unrefused⟩ := fits.untold point going
  exact {
    held := ⟨set', holds⟩
    released := by simp [unreleased]
    panicked := by simp [unpanicked]
    refused := by simp [unrefused]
    returned := nofun
    inside := nofun }

theorem SyncCall.Fits.of_panicked (fits : call.Fits boa retry index shared events)
    {here : SyncPoint} (point : call.point = here) (going : ∀ outcome, here ≠ .finished outcome)
    (runtime : Nat) (inside : call.inRuntime = true) :
    { call with point := .finished .panicked }.Fits boa retry index later
      (events ++ (some (runtime, LockEvent.panicked index)).toList.map Prod.snd) := by
  obtain ⟨unreleased, -, unrefused⟩ := fits.untold point going
  exact {
    held := trivial
    released := by simp [unreleased]
    panicked := fun _ => ⟨inside, rfl⟩
    refused := by simp [unrefused]
    returned := nofun
    inside := fun _ => inside }

theorem SyncOutcome.ofResult_ne_panicked (result : Except String (JsValue Nat × JsHeap)) :
    ofResult result ≠ .panicked := by
  cases result with
  | ok => exact nofun
  | error => exact nofun

theorem SyncCall.Fits.of_released (fits : call.Fits boa retry index shared events)
    {here : SyncPoint} (point : call.point = here) (going : ∀ outcome, here ≠ .finished outcome)
    (runtime : Nat) (outside : call.inRuntime = false) (meets : SyncMeets) :
    { call with point := .finished (call.answer boa retry meets) }.Fits boa retry index later
      (events ++ (some (runtime, LockEvent.released index)).toList.map Prod.snd) := by
  obtain ⟨-, unpanicked, unrefused⟩ := fits.untold point going
  exact {
    held := trivial
    released := fun _ => ⟨outside, meets, rfl⟩
    panicked := by simp [unpanicked]
    refused := by simp [unrefused]
    returned := fun _ _ _ => by simp
    inside := fun same =>
      absurd (SyncPoint.finished.inj same) (SyncOutcome.ofResult_ne_panicked _) }

theorem SyncCall.step_fits (documented : tokio.Documented)
    (fits : call.Fits boa retry index shared events) (meets : SyncMeets) :
    { call with point := (call.step boa tokio retry index meets shared).point }.Fits boa retry
      index (call.step boa tokio retry index meets shared).shared
      (events ++ (call.step boa tokio retry index meets shared).told.toList.map Prod.snd) := by
  have held := fits.held
  unfold SyncCall.Held at held
  unfold SyncCall.step
  cases point : call.point with
  | getting =>
      simp only
      split
      next runtime set' => exact fits.moved point nofun (.locking runtime) set' nofun
      next => exact fits.moved point nofun .creating trivial nofun
  | creating =>
      simp only
      split
      next err _ =>
        exact fits.moved point nofun (.finished _) trivial fun outcome same =>
          .inl ⟨_, (SyncPoint.finished.inj same).symm⟩
      next => exact fits.moved point nofun (.setting _) trivial nofun
  | setting own =>
      simp only
      split
      next => exact fits.moved point nofun (.locking own) rfl nofun
      next kept set' =>
        by_cases drops : tokio.drops call.inRuntime = true
        · rw [if_pos drops]
          exact fits.moved point nofun (.locking kept) set' nofun
        · rw [if_neg drops]
          rw [documented.drops, Bool.not_eq_true', Bool.not_eq_false] at drops
          exact fits.moved point nofun (.finished .panicked) trivial fun outcome same =>
            .inr ⟨(SyncPoint.finished.inj same).symm, drops⟩
  | locking runtime =>
      simp only [point] at held ⊢
      split
      next => exact fits.moved point nofun (.locking runtime) held nofun
      next lock owner locked =>
        obtain rfl : owner = index := by
          rcases PoisonLock.lock_cases locked with ⟨told, -⟩ | ⟨told, -⟩ <;> cases told
          rfl
        exact fits.of_refused point nofun runtime
      next lock event entered locked =>
        obtain ⟨rfl, rfl⟩ : event = .acquired index ∧ lock = ⟨some index, false⟩ := by
          rcases PoisonLock.lock_cases locked with told | ⟨told, -⟩
          · exact told
          · exact absurd told (entered index)
        exact fits.of_acquired point nofun held (by simp)
  | blocking runtime =>
      simp only [point] at held ⊢
      by_cases blocks : tokio.blocksOn call.inRuntime = true
      · rw [if_pos blocks]
        rw [documented.blocksOn, Bool.not_eq_true'] at blocks
        exact fits.moved point nofun (.calling runtime) ⟨held.1, held.2, blocks⟩ nofun
      · rw [if_neg blocks]
        rw [documented.blocksOn, Bool.not_eq_true', Bool.not_eq_false] at blocks
        exact fits.of_panicked point nofun runtime blocks
  | calling runtime =>
      simp only [point] at held ⊢
      exact fits.of_released point nofun runtime held.2.2 meets
  | finished outcome =>
      have same : { call with point := .finished outcome } = call := by rw [← point]
      simpa only [same, Option.toList_none, List.map_nil, List.append_nil] using fits

end

namespace SyncCalls

structure Sound (boa : Boa) (retry : MadrpcClient.RetryConfig) (state : SyncCalls)
    (events : List (Nat × LockEvent)) : Prop where
  follows : state.shared.Follows events
  known : ∀ event ∈ events, event.2.owner < state.calls.length
  fits : ∀ index (call : SyncCall), state.calls[index]? = some call →
    call.Fits boa retry index state.shared (events.map Prod.snd)

theorem initial_sound (boa : Boa) (retry : MadrpcClient.RetryConfig) :
    Sound boa retry initial [] where
  follows := ⟨fun _ none' => absurd none' List.not_mem_nil, fun _ _ => rfl, nofun⟩
  known _ none' := absurd none' List.not_mem_nil
  fits _ _ none' := absurd none' nofun

section

variable {boa : Boa} {tokio : Tokio} {retry : MadrpcClient.RetryConfig} {state : SyncCalls}
  {events : List (Nat × LockEvent)}

theorem begun_fits {inRuntime : Bool} {heap : JsHeap} {depth : Nat} {args : List (JsValue Nat)}
    {call : SyncCall} (begins : begun boa inRuntime heap depth args = some call) {index : Nat}
    {told : List LockEvent} (fresh : ∀ event ∈ told, event.owner ≠ index)
    (shared : SharedRuntimes) : call.Fits boa retry index shared told := by
  have untold {event : LockEvent} (own : event.owner = index) : event ∉ told :=
    fun member => fresh event member own
  obtain ⟨result, -, rfl⟩ := Option.map_eq_some_iff.mp begins
  cases result <;> exact {
    held := trivial
    released := fun member => absurd member (untold rfl)
    panicked := fun member => absurd member (untold rfl)
    refused := fun member => absurd member (untold rfl)
    returned := nofun
    inside := nofun }

theorem Sound.begin (sound : state.Sound boa retry events) (inRuntime : Bool) (heap : JsHeap)
    (depth : Nat) (args : List (JsValue Nat)) :
    Sound boa retry
      { state with calls := state.calls ++ (begun boa inRuntime heap depth args).toList }
      events where
  follows := sound.follows
  known event member := by
    rw [List.length_append]
    exact Nat.lt_add_right _ (sound.known event member)
  fits index call there := by
    rw [List.getElem?_append] at there
    split at there
    next => exact sound.fits index call there
    next late =>
      refine begun_fits (Option.mem_toList.mp (List.mem_of_getElem? there)) ?_ _
      rintro _ member rfl
      obtain ⟨event, told, rfl⟩ := List.mem_map.mp member
      exact late (sound.known event told)

theorem Sound.step (documented : tokio.Documented) (sound : state.Sound boa retry events)
    {index : Nat} {call : SyncCall} (there : state.calls[index]? = some call)
    (meets : SyncMeets) :
    let stepped := call.step boa tokio retry index meets state.shared
    Sound boa retry ⟨stepped.shared, state.calls.set index { call with point := stepped.point }⟩
      (events ++ stepped.told.toList) := by
  have changes : state.shared.Changes index
      (call.step boa tokio retry index meets state.shared).shared
      (call.step boa tokio retry index meets state.shared).told :=
    SyncCall.step_changes (sound.fits index call there).held meets
  constructor
  · exact sound.follows.changes changes
  · intro event member
    rw [List.length_set]
    rcases List.mem_append.mp member with old | new
    · exact sound.known event old
    · rw [changes.owner (List.mem_map_of_mem new)]
      exact (List.getElem?_eq_some_iff.mp there).1
  · intro other found here
    rw [List.map_append]
    by_cases same : other = index
    · subst same
      rw [List.getElem?_set_self (List.getElem?_eq_some_iff.mp there).1] at here
      cases here
      exact SyncCall.step_fits documented (sound.fits other call there) meets
    · rw [List.getElem?_set_ne (Ne.symm same)] at here
      exact (sound.fits other found here).other changes same

theorem run_sound (documented : tokio.Documented) (inputs : List SyncInput) :
    Sound boa retry ((machine boa tokio retry).run initial inputs)
      ((machine boa tokio retry).told initial inputs) := by
  refine (machine boa tokio retry).run_told (Sound boa retry)
    (fun state events input sound => ?_) initial inputs [] (initial_sound boa retry)
  cases input with
  | begin inRuntime heap depth args =>
      simpa [machine] using sound.begin inRuntime heap depth args
  | step index meets =>
      simp only [machine]
      split
      next => simpa using sound
      next call there => exact sound.step documented there meets

theorem finished_stays {index : Nat} {call : SyncCall} {outcome : SyncOutcome}
    (ended : call.point = .finished outcome) (inputs : List SyncInput)
    (there : state.calls[index]? = some call) :
    ((machine boa tokio retry).run state inputs).calls[index]? = some call := by
  refine (machine boa tokio retry).run_invariant (fun state => state.calls[index]? = some call)
    (fun state input there => ?_) state inputs there
  cases input with
  | begin inRuntime heap depth args =>
      have inside := (List.getElem?_eq_some_iff.mp there).1
      simp only [machine]
      rw [List.getElem?_append_left inside, there]
  | step other meets =>
      simp only [machine]
      split
      next => exact there
      next stepping found =>
        by_cases same : other = index
        · subst same
          obtain rfl := Option.some.inj (found.symm.trans there)
          rw [List.getElem?_set_self (List.getElem?_eq_some_iff.mp there).1, SyncCall.step, ended]
          simp only [← ended]
        · rw [List.getElem?_set_ne same, there]

/-- A script has made the call, with arguments that ask for its method and its parameters. -/
def Made (boa : Boa) (tokio : Tokio) (retry : MadrpcClient.RetryConfig)
    (inputs : List SyncInput) (index : Nat) (call : SyncCall) : Prop :=
  ∃ earlier depth args later,
    inputs = earlier ++ .begin call.inRuntime call.heap depth args :: later ∧
      ((machine boa tokio retry).run initial earlier).calls.length = index ∧
      callArguments boa call.heap depth args = some (.ok (call.method, call.params))

theorem Made.concat {inputs : List SyncInput} {index : Nat} {call : SyncCall}
    (made : Made boa tokio retry inputs index call) (input : SyncInput) :
    Made boa tokio retry (inputs ++ [input]) index call := by
  obtain ⟨earlier, depth, args, later, rfl, rest⟩ := made
  exact ⟨earlier, depth, args, later ++ [input], by simp, rest⟩

theorem step_calls {input : SyncInput} {index : Nat} {call : SyncCall}
    (there : ((machine boa tokio retry).step state input).1.calls[index]? = some call) :
    (∃ before, state.calls[index]? = some before ∧ call = { before with point := call.point } ∧
        ∀ outcome, before.point = .finished outcome → call.point = .finished outcome) ∨
      ∃ inRuntime heap depth args, input = .begin inRuntime heap depth args ∧
        state.calls.length = index ∧ begun boa inRuntime heap depth args = some call := by
  cases input with
  | begin inRuntime heap depth args =>
      simp only [machine] at there
      rw [List.getElem?_append] at there
      split at there
      next => exact .inl ⟨call, there, rfl, fun _ => id⟩
      next late =>
        have place := (List.getElem?_eq_some_iff.mp there).1
        have few : (begun boa inRuntime heap depth args).toList.length ≤ 1 := by
          cases begun boa inRuntime heap depth args <;> simp
        exact .inr ⟨inRuntime, heap, depth, args, rfl, by omega,
          Option.mem_toList.mp (List.mem_of_getElem? there)⟩
  | step other meets =>
      simp only [machine] at there
      split at there
      next => exact .inl ⟨call, there, rfl, fun _ => id⟩
      next stepping found =>
        by_cases same : other = index
        · subst same
          rw [List.getElem?_set_self (List.getElem?_eq_some_iff.mp found).1] at there
          cases there
          exact .inl ⟨stepping, found, rfl, fun outcome ended => by
            simp only [SyncCall.step, ended]⟩
        · rw [List.getElem?_set_ne same] at there
          exact .inl ⟨call, there, rfl, fun _ => id⟩

theorem run_made (inputs : List SyncInput) (index : Nat) (call : SyncCall)
    (there : ((machine boa tokio retry).run initial inputs).calls[index]? = some call) :
    (∃ outcome, call.point = .finished outcome) ∨ Made boa tokio retry inputs index call := by
  induction inputs using List.reverseRecOn generalizing call with
  | nil => cases there
  | append_singleton inputs input ih =>
      rw [Machine.run_append, Machine.run_cons, Machine.run_nil] at there
      rcases step_calls there with ⟨before, found, same, stays⟩ |
        ⟨inRuntime, heap, depth, args, rfl, last, begins⟩
      · rcases ih before found with ⟨outcome, ended⟩ | made
        · exact .inl ⟨outcome, stays outcome ended⟩
        · rw [same]
          exact .inr (made.concat input)
      · obtain ⟨result, asked, rfl⟩ := Option.map_eq_some_iff.mp begins
        cases result with
        | error message => exact .inl ⟨_, rfl⟩
        | ok request => exact .inr ⟨inputs, depth, args, [], rfl, last, asked⟩

/-- The client call was under way, met an exchange with the request that was asked for, and the
call has since been what the client made of the answer. -/
def Answered (boa : Boa) (tokio : Tokio) (retry : MadrpcClient.RetryConfig)
    (inputs : List SyncInput) (index : Nat) : Prop :=
  ∃ before meets after call runtime, inputs = before ++ .step index meets :: after ∧
    Made boa tokio retry before index call ∧ call.inRuntime = false ∧
    ((machine boa tokio retry).run initial before).calls[index]? = some call ∧
    call.point = .calling runtime ∧
    let request := MadrpcClient.request call.method call.params meets.requestId
    let answer := (MadrpcClient.call retry (meets.exchange request)).result
    ((machine boa tokio retry).run initial inputs).calls[index]? = some { call with
      point := .finished (.ofResult (callSyncResult boa answer call.heap)) }

theorem answered_of_released (documented : tokio.Documented) {inputs : List SyncInput}
    {runtime index : Nat}
    (member : (runtime, .released index) ∈ (machine boa tokio retry).told initial inputs) :
    Answered boa tokio retry inputs index := by
  obtain ⟨before, input, after, rfl, told⟩ := (machine boa tokio retry).told_split member
  cases input with
  | begin => cases told
  | step other meets =>
      simp only [machine] at told
      split at told
      next => cases told
      next call there =>
        obtain ⟨rfl, point, next⟩ := SyncCall.told_released told
        have held := ((@run_sound boa tokio retry documented before).fits index call there).held
        unfold SyncCall.Held at held
        simp only [point] at held
        have made := (run_made before index call there).resolve_left
          fun ⟨outcome, ended⟩ => absurd (point.symm.trans ended) nofun
        refine ⟨before, meets, after, call, runtime, rfl, made, held.2.2, there, point, ?_⟩
        rw [Machine.run_append, Machine.run_cons]
        refine finished_stays rfl after ?_
        simp only [machine]
        rw [there]
        simp only [next, List.getElem?_set_self (List.getElem?_eq_some_iff.mp there).1]
        rfl

end

/-- One call after another gets the answer to its own request, until one panics. -/
structure Serialised (boa : Boa) (tokio : Tokio) (retry : MadrpcClient.RetryConfig)
    (inputs : List SyncInput) (state : SyncCalls) (events : List LockEvent) : Prop where
  serial : ∃ lock, PoisonLock.Serial lock events
  sent : ∀ index (call : SyncCall) runtime, state.calls[index]? = some call →
    call.point = .calling runtime →
      call.inRuntime = false ∧ events.getLast? = some (.acquired index)
  released : ∀ index, .released index ∈ events → Answered boa tokio retry inputs index
  panicked : ∀ index, .panicked index ∈ events → ∃ call, state.calls[index]? = some call ∧
    call.inRuntime = true ∧ call.point = .finished .panicked
  refused : ∀ index, .refused index ∈ events → ∃ call, state.calls[index]? = some call ∧
    call.point = .finished (.threw lockFailed)
  returned : ∀ index (call : SyncCall) value heap, state.calls[index]? = some call →
    call.point = .finished (.returned value heap) → .released index ∈ events

section

variable {boa : Boa} {tokio : Tokio} {retry : MadrpcClient.RetryConfig} {state : SyncCalls}
  {events : List (Nat × LockEvent)}

theorem Sound.serial (sound : state.Sound boa retry events) {runtime : Nat}
    (here : state.shared.runtime = some runtime) :
    PoisonLock.Serial (state.shared.locks runtime) (events.map Prod.snd) :=
  PoisonLock.serial_of_new (sound.follows.follow runtime here)

theorem Sound.call (sound : state.Sound boa retry events) {event : LockEvent}
    (member : event ∈ events.map Prod.snd) : ∃ call, state.calls[event.owner]? = some call := by
  obtain ⟨told, inside, rfl⟩ := List.mem_map.mp member
  exact ⟨_, List.getElem?_eq_getElem (sound.known told inside)⟩

theorem Sound.serial_some (sound : state.Sound boa retry events) :
    ∃ lock, PoisonLock.Serial lock (events.map Prod.snd) := by
  cases here : state.shared.runtime with
  | some runtime => exact ⟨_, sound.serial here⟩
  | none =>
      have untold : events = [] := List.eq_nil_iff_forall_not_mem.mpr fun event member =>
        absurd (here.symm.trans (sound.follows.one event member)) nofun
      rw [untold]
      exact ⟨_, .free []⟩

theorem run_serialised (documented : tokio.Documented) (inputs : List SyncInput) :
    Serialised boa tokio retry inputs ((machine boa tokio retry).run initial inputs)
      ((told boa tokio retry inputs).map Prod.snd) := by
  have sound := @run_sound boa tokio retry documented inputs
  constructor
  · exact sound.serial_some
  · intro index call runtime there point
    have held := (sound.fits index call there).held
    unfold SyncCall.Held at held
    simp only [point] at held
    exact ⟨held.2.2, (sound.serial held.1).last_of_holder held.2.1⟩
  · intro index member
    obtain ⟨⟨runtime, event⟩, told, rfl⟩ := List.mem_map.mp member
    exact answered_of_released documented told
  · intro index member
    obtain ⟨call, there⟩ := sound.call member
    exact ⟨call, there, (sound.fits index call there).panicked member⟩
  · intro index member
    obtain ⟨call, there⟩ := sound.call member
    exact ⟨call, there, (sound.fits index call there).refused member⟩
  · exact fun index call value heap there => (sound.fits index call there).returned value heap

end

/-- However the threads of a process interleave, they share one runtime and use it one after
another, and the first to do so from inside a runtime is the last that gets to it. -/
theorem sync_calls_serialised (boa : Boa) (tokio : Tokio) (documented : tokio.Documented)
    (retry : MadrpcClient.RetryConfig) (inputs : List SyncInput) :
    (∃ runtime, ∀ event ∈ told boa tokio retry inputs, event.1 = runtime) ∧
      Serialised boa tokio retry inputs ((machine boa tokio retry).run initial inputs)
        ((told boa tokio retry inputs).map Prod.snd) := by
  have sound := @run_sound boa tokio retry documented inputs
  refine ⟨?_, run_serialised documented inputs⟩
  cases here : ((machine boa tokio retry).run initial inputs).shared.runtime with
  | none => exact ⟨0, fun event member =>
      absurd (here.symm.trans (sound.follows.one event member)) nofun⟩
  | some runtime => exact ⟨runtime, fun event member =>
      (Option.some.inj (here.symm.trans (sound.follows.one event member))).symm⟩

/-! Three threads, of which the second is inside a runtime. -/

def tokioDocumented : Tokio := ⟨Bool.not, Bool.not⟩

def echo (request : JsonRpcRequest) (_ : Nat) : Exchange :=
  .responded ⟨⟨200, "OK"⟩, .collected (.ok (.success request.id request.params))⟩

def threeThreads : List SyncInput :=
  [false, true, false].map (.begin · emptyArray 2 [.string (.text "compute"), .object 0]) ++
    [0, 0, 0, 1, 0, 0, 1, 0, 1, 1, 2, 2].map (.step · ⟨.ok (), 1, echo⟩)

theorem sync_calls_serialised_witness :
    (told boaOnSpecialKeys tokioDocumented .default threeThreads).map Prod.snd =
        [.acquired 0, .released 0, .acquired 1, .panicked 1, .refused 2] ∧
      Serialised boaOnSpecialKeys tokioDocumented .default threeThreads
        ((machine boaOnSpecialKeys tokioDocumented .default).run initial threeThreads)
        [.acquired 0, .released 0, .acquired 1, .panicked 1, .refused 2] := by
  have events : (told boaOnSpecialKeys tokioDocumented .default threeThreads).map Prod.snd =
      [.acquired 0, .released 0, .acquired 1, .panicked 1, .refused 2] := by decide +kernel
  refine ⟨events, ?_⟩
  rw [← events]
  exact (sync_calls_serialised boaOnSpecialKeys tokioDocumented ⟨fun _ => rfl, fun _ => rfl⟩
    .default threeThreads).2

theorem run_inside (boa : Boa) (tokio : Tokio) (retry : MadrpcClient.RetryConfig)
    (inputs : List SyncInput) (inside : ∀ inRuntime heap depth args,
      .begin inRuntime heap depth args ∈ inputs → inRuntime = true) :
    ∀ call ∈ ((machine boa tokio retry).run initial inputs).calls, call.inRuntime = true := by
  refine (machine boa tokio retry).run_invariant_of_steps
    (fun state => ∀ call ∈ state.calls, call.inRuntime = true)
    (fun _ input => ∀ inRuntime heap depth args,
      input = .begin inRuntime heap depth args → inRuntime = true)
    (fun state input holds begins => ?_) initial inputs
    (fun _ none' => absurd none' List.not_mem_nil)
    (Machine.eachStep_of_forall _ _ _ _ fun input member inRuntime heap depth args same =>
      inside inRuntime heap depth args (same ▸ member))
  intro call member
  obtain ⟨index, there⟩ := List.getElem?_of_mem member
  rcases step_calls there with ⟨before, found, same, -⟩ |
    ⟨inRuntime, heap, depth, args, rfl, -, begun⟩
  · rw [same]
    exact holds before (List.mem_of_getElem? found)
  · obtain ⟨result, -, rfl⟩ := Option.map_eq_some_iff.mp begun
    cases result <;> exact begins inRuntime heap depth args rfl

/-- Procedures run inside the runtime of their call, so none ever makes a synchronous call: the
first that gets the lock panics with it, and all that come to it later are told that it did. -/
theorem procedures_never_call_sync (boa : Boa) (tokio : Tokio) (documented : tokio.Documented)
    (retry : MadrpcClient.RetryConfig) (inputs : List SyncInput)
    (inside : ∀ inRuntime heap depth args,
      .begin inRuntime heap depth args ∈ inputs → inRuntime = true) :
    (∀ call ∈ ((machine boa tokio retry).run initial inputs).calls,
      (∀ runtime, call.point ≠ .calling runtime) ∧
        ∀ outcome, call.point = .finished outcome →
          outcome = .panicked ∨ ∃ message, outcome = .threw message) ∧
      ((told boa tokio retry inputs).map Prod.snd = [] ∨ ∃ owner,
        (told boa tokio retry inputs).map Prod.snd = [.acquired owner] ∨ ∃ others : List Nat,
          (told boa tokio retry inputs).map Prod.snd =
              .acquired owner :: .panicked owner :: others.map .refused ∧
            (∃ call : SyncCall,
              ((machine boa tokio retry).run initial inputs).calls[owner]? = some call ∧
                call.point = .finished .panicked) ∧
            ∀ other ∈ others, ∃ call : SyncCall,
              ((machine boa tokio retry).run initial inputs).calls[other]? = some call ∧
                call.point = .finished (.threw lockFailed)) := by
  have serialised := @run_serialised boa tokio retry documented inputs
  have within := run_inside boa tokio retry inputs inside
  have unreleased (owner : Nat) :
      .released owner ∉ (told boa tokio retry inputs).map Prod.snd := by
    intro member
    obtain ⟨_, _, _, call, _, _, _, outside, _, _, there⟩ := serialised.released owner member
    exact absurd (within _ (List.mem_of_getElem? there)) (by simp [outside])
  obtain ⟨lock, serial⟩ := serialised.serial
  constructor
  · intro call member
    obtain ⟨index, there⟩ := List.getElem?_of_mem member
    refine ⟨fun runtime point => ?_, fun outcome ended => ?_⟩
    · have outside := (serialised.sent index call runtime there point).1
      exact absurd (within call member) (by simp [outside])
    · cases outcome with
      | returned value heap =>
          exact absurd (serialised.returned index call value heap there ended) (unreleased index)
      | threw message => exact .inr ⟨message, rfl⟩
      | panicked => exact .inl rfl
  · refine (serial.of_unreleased unreleased).imp id (.imp fun owner => .imp id ?_)
    rintro ⟨others, events⟩
    have panicked := serialised.panicked owner (by simp [events])
    have refused (other : Nat) (member : other ∈ others) :=
      serialised.refused other (by simp [events, member])
    exact ⟨others, events, panicked.imp fun call => .imp id And.right, refused⟩

/-! The first two procedures find no runtime yet. The second has one of its own when it comes to
set it, and panics as it drops it. -/

def threeProcedures : List SyncInput :=
  [true, true, true].map (.begin · emptyArray 2 [.string (.text "compute"), .object 0]) ++
    [0, 1, 0, 1, 0, 1, 0, 0, 2, 2].map (.step · ⟨.ok (), 1, echo⟩)

theorem procedures_never_call_sync_witness :
    (told boaOnSpecialKeys tokioDocumented .default threeProcedures).map Prod.snd =
        [.acquired 0, .panicked 0, .refused 2] ∧
      ∀ call ∈ ((machine boaOnSpecialKeys tokioDocumented .default).run initial
        threeProcedures).calls, ∀ runtime, call.point ≠ .calling runtime := by
  obtain ⟨unsent, -⟩ := procedures_never_call_sync boaOnSpecialKeys tokioDocumented
    ⟨fun _ => rfl, fun _ => rfl⟩ .default threeProcedures (by simp [threeProcedures])
  exact ⟨by decide +kernel, fun call member => (unsent call member).1⟩

end SyncCalls

end MadRpc
