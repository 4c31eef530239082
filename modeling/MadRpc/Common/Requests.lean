import Mathlib.Data.List.Iterate
import Mathlib.Data.List.Nodup
import Mathlib.Data.List.ReduceOption
import MadRpc.Shared.Machine

set_option autoImplicit false

namespace MadRpc

abbrev RequestId := UInt64

/-- The timestamp in the upper 32 bits, the counter in the lower ones. -/
def requestId (timestamp counter : UInt64) : RequestId :=
  (timestamp <<< 32) ||| (counter &&& 0xFFFFFFFF)

/-- The reading of the clock is absent when it lies before the epoch. -/
def generateRequestId (requestIdCounter : UInt64) (systemTime : Option UInt64) :
    UInt64 × RequestId :=
  (requestIdCounter + 1, requestId (systemTime.getD 0) requestIdCounter)

inductive RequestIdCall where
  | timestamped (timestamp : UInt64)
  | generated (id : RequestId)
  deriving DecidableEq, Repr

structure RequestIds where
  requestIdCounter : UInt64
  calls : List RequestIdCall

namespace RequestIds

inductive Input where
  | readClock (systemTime : Option UInt64)
  | fetchAdd (call : Nat)

structure Taken where
  counter : UInt64
  id : RequestId
  deriving DecidableEq, Repr

def step (ids : RequestIds) : Input → RequestIds × Option Taken
  | .readClock systemTime =>
      ({ ids with calls := ids.calls ++ [.timestamped (systemTime.getD 0)] }, none)
  | .fetchAdd call =>
      match ids.calls[call]? with
      | some (.timestamped timestamp) =>
          let id := requestId timestamp ids.requestIdCounter
          (⟨ids.requestIdCounter + 1, ids.calls.set call (.generated id)⟩,
            some ⟨ids.requestIdCounter, id⟩)
      | _ => (ids, none)

def machine : Machine RequestIds Input (Option Taken) := ⟨step⟩

def taken (ids : RequestIds) (inputs : List Input) : List Taken :=
  (machine.outputs ids inputs).reduceOption

theorem run_alone (ids : RequestIds) (systemTime : Option UInt64) :
    (machine.run ids [.readClock systemTime, .fetchAdd ids.calls.length]).requestIdCounter =
        (generateRequestId ids.requestIdCounter systemTime).1 ∧
      ids.taken [.readClock systemTime, .fetchAdd ids.calls.length] =
        [⟨ids.requestIdCounter, (generateRequestId ids.requestIdCounter systemTime).2⟩] := by
  simp [machine, taken, step, generateRequestId, List.reduceOption]

theorem requestId_lower (timestamp counter : UInt64) :
    (requestId timestamp counter).toNat % 2 ^ 32 = counter.toNat % 2 ^ 32 := by
  have mask : (0xFFFFFFFF : UInt64).toNat = 2 ^ 32 - 1 := by decide
  have shift : (32 : UInt64).toNat % 64 = 32 := by decide
  have upper : timestamp.toNat * 2 ^ 32 % 2 ^ 64 % 2 ^ 32 = 0 := by omega
  rw [requestId, UInt64.toNat_or, UInt64.toNat_and, UInt64.toNat_shiftLeft, mask, shift,
    Nat.shiftLeft_eq, Nat.or_mod_two_pow, Nat.and_two_pow_sub_one_eq_mod, upper, Nat.zero_or,
    Nat.mod_mod]

theorem step_taken {ids : RequestIds} {input : Input} {taken : Taken}
    (takes : (step ids input).2 = some taken) :
    taken.counter = ids.requestIdCounter ∧
      (step ids input).1.requestIdCounter = ids.requestIdCounter + 1 ∧
      taken.id.toNat % 2 ^ 32 = taken.counter.toNat % 2 ^ 32 := by
  cases input with
  | readClock systemTime => cases takes
  | fetchAdd call =>
      rw [step] at takes ⊢
      split at takes
      next timestamp found =>
        cases takes
        exact ⟨rfl, rfl, requestId_lower timestamp ids.requestIdCounter⟩
      next => cases takes

theorem step_idle {ids : RequestIds} {input : Input} (idle : (step ids input).2 = none) :
    (step ids input).1.requestIdCounter = ids.requestIdCounter := by
  cases input with
  | readClock systemTime => rfl
  | fetchAdd call =>
      rw [step] at idle ⊢
      split at idle
      next => cases idle
      next => rfl

/-- `first` and its successors, wrapping around after the last `u64`. -/
def consecutive (first : UInt64) (count : Nat) : List UInt64 :=
  List.iterate (· + 1) first count

theorem taken_consecutive (ids : RequestIds) (inputs : List Input) :
    (ids.taken inputs).map Taken.counter =
      consecutive ids.requestIdCounter (ids.taken inputs).length := by
  induction inputs generalizing ids with
  | nil => rfl
  | cons input rest ih =>
      have later := ih (step ids input).1
      cases takes : (step ids input).2 with
      | none =>
          have same : ids.taken (input :: rest) = (step ids input).1.taken rest := by
            simp only [taken, machine, Machine.outputs_cons, takes, List.reduceOption_cons_of_none]
          rw [same, later, step_idle takes]
      | some first =>
          obtain ⟨counter, next, -⟩ := step_taken takes
          have grown : ids.taken (input :: rest) = first :: (step ids input).1.taken rest := by
            simp only [taken, machine, Machine.outputs_cons, takes, List.reduceOption_cons_of_some]
          rw [grown, List.map_cons, later, counter, next]
          rfl

theorem taken_lower (ids : RequestIds) (inputs : List Input) {call : Taken}
    (member : call ∈ ids.taken inputs) :
    call.id.toNat % 2 ^ 32 = call.counter.toNat % 2 ^ 32 := by
  have yields := machine.forall_outputs (fun _ => True) (fun _ _ => True)
    (fun output => ∀ call, output = some call →
      call.id.toNat % 2 ^ 32 = call.counter.toNat % 2 ^ 32)
    (fun _ _ _ _ => trivial) (fun _ _ _ _ _ takes => (step_taken takes).2.2) ids inputs trivial
    (machine.eachStep_of_forall _ ids inputs fun _ _ => trivial)
  exact yields (some call) (List.reduceOption_mem_iff.mp member) call rfl

theorem succ_iterate_toNat (first : UInt64) (count : Nat) :
    ((· + 1)^[count] first).toNat = (first.toNat + count) % 2 ^ 64 := by
  induction count generalizing first with
  | zero => exact (Nat.mod_eq_of_lt first.toNat_lt).symm
  | succ count ih =>
      rw [Function.iterate_succ_apply, ih, UInt64.toNat_add, UInt64.toNat_one]
      omega

theorem consecutive_lower_nodup (first : UInt64) {count : Nat} (few : count ≤ 2 ^ 32) :
    ((consecutive first count).map fun counter => counter.toNat % 2 ^ 32).Nodup := by
  induction count generalizing first with
  | zero => exact List.nodup_nil
  | succ count ih =>
      rw [consecutive, List.iterate, List.map_cons, List.nodup_cons]
      refine ⟨?_, ih (first + 1) (Nat.le_of_succ_le few)⟩
      rw [List.mem_map]
      rintro ⟨later, member, same⟩
      obtain ⟨place, within, rfl⟩ := List.mem_iterate.mp member
      rw [succ_iterate_toNat, UInt64.toNat_add, UInt64.toNat_one] at same
      omega

theorem request_ids_distinct (ids : RequestIds) (inputs : List Input) :
    (ids.taken inputs).map Taken.counter =
        consecutive ids.requestIdCounter (ids.taken inputs).length ∧
      ∀ window : List Taken, window ⊆ ids.taken inputs → window.length ≤ 2 ^ 32 →
        (∃ first, window.map Taken.counter = consecutive first window.length) →
        (window.map Taken.id).Nodup := by
  refine ⟨taken_consecutive ids inputs, ?_⟩
  rintro window among few ⟨first, counters⟩
  have lower : (window.map Taken.id).map (fun id => id.toNat % 2 ^ 32) =
      (window.map Taken.counter).map fun counter => counter.toNat % 2 ^ 32 := by
    rw [List.map_map, List.map_map]
    exact List.map_congr_left fun call member => taken_lower ids inputs (among member)
  have distinct := consecutive_lower_nodup first few
  rw [← counters, ← lower] at distinct
  exact List.Nodup.of_map _ distinct

/-- The counter wraps around between two calls that overtake each other. -/
theorem request_ids_distinct_witness :
    let ids : RequestIds := ⟨0xFFFFFFFFFFFFFFFF, []⟩
    let inputs := [.readClock (some 7), .readClock none, .fetchAdd 1, .fetchAdd 0]
    (ids.taken inputs).map Taken.counter = [0xFFFFFFFFFFFFFFFF, 0] ∧
      ((ids.taken inputs).map Taken.id).Nodup :=
  ⟨by decide, (request_ids_distinct ⟨0xFFFFFFFFFFFFFFFF, []⟩ _).2 _ (List.Subset.refl _)
    (by decide) ⟨0xFFFFFFFFFFFFFFFF, by decide⟩⟩

end RequestIds

end MadRpc
