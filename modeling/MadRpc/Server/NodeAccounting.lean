import MadRpc.Server.Node

set_option autoImplicit false

namespace MadRpc

theorem MetricsOperation.countP_outcomes (operations : List MetricsOperation) :
    operations.countP isCall =
      operations.countP (hasOutcome true) + operations.countP (hasOutcome false) := by
  induction operations with
  | nil => rfl
  | cons operation rest ih =>
      cases operation with
      | recordMethodCall method latencyUs success cleanup times =>
          cases success <;> simp [List.countP_cons, isCall, hasOutcome, ih] <;> omega
      | recordNodeRequest nodeAddr cleanup time => simpa [isCall, hasOutcome] using ih

namespace Node

/-- A call past the check of the runtime handle, with all that it meets. -/
structure NodeCall where
  limits : ResourceLimits
  method : String
  awaited : Awaited
  -- What the collector finds when it records the call.
  latencyUs : UInt64
  cleanup : CleanupInput
  times : MethodCallTimes

namespace NodeCall

def called (call : NodeCall) : Called := callRpc call.limits (.ok ()) call.awaited call.method

def operations (call : NodeCall) : List MetricsOperation :=
  call.called.records.map fun (method, success) =>
    .recordMethodCall method call.latencyUs success call.cleanup call.times

def Accounted (call : NodeCall) : Prop :=
  call.called.records = [(call.method, call.called.result.isOk)]

theorem accounted_iff_finished (call : NodeCall) : call.Accounted ↔ Finished call.awaited := by
  unfold Accounted called
  rcases callRpc_cases call.limits call.awaited call.method with
    ⟨result, joined, returned⟩ | ⟨unfinished, message, returned⟩
  · rw [returned]
    exact iff_of_true rfl ⟨result, joined⟩
  · rw [returned]
    exact iff_of_false nofun unfinished

theorem countP_operations (call : NodeCall) (accounted : call.Accounted) :
    call.operations.countP MetricsOperation.isCall = 1 := by
  rw [operations, accounted]
  rfl

theorem countP_run (calls : List NodeCall) (accounted : ∀ call ∈ calls, call.Accounted) :
    (calls.flatMap operations).countP MetricsOperation.isCall = calls.length := by
  induction calls with
  | nil => rfl
  | cons call rest ih =>
      have first := call.countP_operations (accounted call List.mem_cons_self)
      have others := ih fun later member => accounted later (List.mem_cons_of_mem call member)
      rw [List.flatMap_cons, List.countP_append, first, others, List.length_cons, Nat.add_comm]

structure RunAccounted (calls : List NodeCall) (registry : MetricsRegistry) : Prop where
  each : ∀ call ∈ calls, call.Accounted
  sum : registry.totalRequests.toNat =
    registry.successfulRequests.toNat + registry.failedRequests.toNat
  number : registry.totalRequests.toNat = calls.length

/-- The calls run side by side, so that what they record comes in any order. -/
theorem run_accounted_iff_finished (metrics : MetricsConfig) (clock : TimestampClock)
    (calls : List NodeCall) (recorded : List MetricsOperation)
    (interleaved : recorded.Perm (calls.flatMap operations)) :
    RunAccounted calls ((MetricsRegistry.withConfig metrics clock).record recorded) ↔
      calls.length < UInt64.size ∧ ∀ call ∈ calls, Finished call.awaited := by
  obtain ⟨total, successful, failed⟩ := MetricsRegistry.record_totalled metrics clock recorded
  constructor
  · rintro ⟨each, -, number⟩
    refine ⟨number ▸ UInt64.toNat_lt _, fun call member => ?_⟩
    exact call.accounted_iff_finished.mp (each call member)
  · rintro ⟨few, finished⟩
    have each : ∀ call ∈ calls, call.Accounted := fun call member =>
      call.accounted_iff_finished.mpr (finished call member)
    have number : recorded.countP MetricsOperation.isCall = calls.length := by
      rw [interleaved.countP_eq, countP_run calls each]
    have outcomes := MetricsOperation.countP_outcomes recorded
    refine ⟨each, ?_, ?_⟩
    · rw [total, successful, failed, UInt64.toNat_ofNat_of_lt' (by omega),
        UInt64.toNat_ofNat_of_lt' (by omega), UInt64.toNat_ofNat_of_lt' (by omega)]
      exact outcomes
    · rw [total, number]
      exact UInt64.toNat_ofNat_of_lt' few

def ending (awaited : Awaited) : NodeCall where
  limits := ⟨30000⟩
  method := "compute"
  awaited := awaited
  latencyUs := 7
  cleanup := ⟨some 9, [], []⟩
  times := ⟨some 9, some 9, some 9, some 9⟩

theorem run_accounted_iff_finished_witness :
    let calls := [ending (.ok (.ok (.ok .null))),
      ending (.ok (.ok (.error (.javaScriptExecution "Function execution error: Error"))))]
    RunAccounted calls
      ((MetricsRegistry.withConfig .default .initial).record (calls.flatMap operations)) := by
  intro calls
  refine (run_accounted_iff_finished .default .initial calls (calls.flatMap operations)
    (.refl _)).mpr ⟨by decide, ?_⟩
  intro call member
  rcases List.mem_pair.mp member with rfl | rfl
  · exact ⟨_, rfl⟩
  · exact ⟨_, rfl⟩

/-- A call over the time limit returns an error and is recorded nowhere. -/
theorem timeout_unrecorded :
    let call := ending (.error .elapsed)
    let registry := (MetricsRegistry.withConfig .default .initial).record call.operations
    call.called.result =
        .error (.javaScriptExecution "JavaScript execution exceeded time limit of 30000ms") ∧
      call.called.records = [] ∧ registry.totalRequests = 0 ∧
      ¬ RunAccounted [call] registry :=
  ⟨rfl, rfl, rfl, fun accounted => nomatch accounted.number⟩

end NodeCall

end Node

end MadRpc
