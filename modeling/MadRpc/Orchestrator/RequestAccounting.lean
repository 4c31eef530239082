import MadRpc.Metrics.Totals
import MadRpc.Orchestrator.Forwarding

set_option autoImplicit false

namespace MadRpc

namespace Orchestrator

def Retried (attempt : Attempt) : Prop :=
  attempt.node ≠ none ∧
    ∃ err, (sendHttpRequest attempt).result = .error err ∧ isRetryable err = true

def Answered (attempt : Attempt) : Prop :=
  attempt.node ≠ none ∧ ∃ value, (sendHttpRequest attempt).result = .ok value

def Served (config : RetryConfig) (attempts : Nat → Attempt) : Prop :=
  ∃ last ≤ config.maxRetries, (∀ attempt < last, Retried (attempts attempt)) ∧
    Answered (attempts last)

theorem records_contacted (result : Except MadrpcError Value) (nodeAddr : String)
    (sent : MadrpcClient.Called) (rest : List Effect) :
    (⟨result, contacted nodeAddr sent ++ rest⟩ : Forwarded).records =
      (⟨result, rest⟩ : Forwarded).records := rfl

theorem forwardLoop_records (config : RetryConfig) (method : String) (attempts : Nat → Attempt)
    (retriesLeft attempt : Nat) (backoffMs : UInt64) :
    (forwardLoop config method attempts retriesLeft attempt backoffMs).records =
      if (forwardLoop config method attempts retriesLeft attempt backoffMs).result.isOk then
        [(method, true)]
      else [] := by
  refine forwardLoop_induction (motive := fun _ _ forwarded =>
    forwarded.records = if forwarded.result.isOk then [(method, true)] else [])
    retriesLeft attempt backoffMs ?_ ?_ ?_
  · intro _ _ _ _
    rfl
  · intro _ _ _ _ _ _ _ _ _ ih
    rw [Forwarded.after_records, Forwarded.after_result, records_contacted]
    exact ih
  · intro _ attempt _ _ _
    rw [Forwarded.after_result, settle_result]
    cases (sendHttpRequest (attempts attempt)).result <;> rfl

theorem forwardLoop_isOk (config : RetryConfig) (method : String) (attempts : Nat → Attempt)
    (retriesLeft attempt : Nat) (backoffMs : UInt64) :
    (forwardLoop config method attempts retriesLeft attempt backoffMs).result.isOk = true ↔
      ∃ last ≤ retriesLeft, (∀ earlier < last, Retried (attempts (attempt + earlier))) ∧
        Answered (attempts (attempt + last)) := by
  refine forwardLoop_induction (motive := fun retriesLeft attempt forwarded =>
    forwarded.result.isOk = true ↔
      ∃ last ≤ retriesLeft, (∀ earlier < last, Retried (attempts (attempt + earlier))) ∧
        Answered (attempts (attempt + last))) retriesLeft attempt backoffMs ?_ ?_ ?_
  · intro retriesLeft attempt err none
    constructor
    · intro ok
      cases ok
    · rintro ⟨last, within, earlier, answered⟩
      cases last with
      | zero => exact absurd none answered.1
      | succ last => exact absurd none (earlier 0 (Nat.succ_pos last)).1
  · intro retriesLeft attempt backoffMs nodeAddr err forwarded selected failed retryable ih
    rw [Forwarded.after_result, ih]
    constructor
    · rintro ⟨last, within, earlier, answered⟩
      refine ⟨last + 1, Nat.succ_le_succ within, ?_, ?_⟩
      · intro position inside
        cases position with
        | zero => exact ⟨by simp [selected], err, failed, retryable⟩
        | succ position =>
            rw [← Nat.succ_add_eq_add_succ]
            exact earlier position (Nat.lt_of_succ_lt_succ inside)
      · rw [← Nat.succ_add_eq_add_succ]
        exact answered
    · rintro ⟨last, within, earlier, answered⟩
      cases last with
      | zero =>
          obtain ⟨-, value, ok⟩ := answered
          rw [Nat.add_zero, failed] at ok
          cases ok
      | succ last =>
          rw [← Nat.succ_add_eq_add_succ] at answered
          refine ⟨last, Nat.le_of_succ_le_succ within, fun position inside => ?_, answered⟩
          rw [Nat.succ_add_eq_add_succ]
          exact earlier (position + 1) (Nat.succ_lt_succ inside)
  · intro retriesLeft attempt nodeAddr selected last
    rw [Forwarded.after_result, settle_result]
    constructor
    · intro ok
      cases response : (sendHttpRequest (attempts attempt)).result with
      | ok value => exact ⟨0, Nat.zero_le _, nofun, by simp [selected], value, response⟩
      | error err =>
          rw [response] at ok
          cases ok
    · rintro ⟨final, within, earlier, answered⟩
      cases final with
      | zero =>
          obtain ⟨-, value, ok⟩ := answered
          rw [Nat.add_zero] at ok
          rw [ok]
          rfl
      | succ final =>
          obtain ⟨-, err, failed, retryable⟩ := earlier 0 (Nat.succ_pos final)
          obtain none | permanent := last
          · omega
          · rw [permanent err failed] at retryable
            cases retryable

structure Recording where
  latencyUs : UInt64
  cleanup : CleanupInput
  times : MethodCallTimes
  nodeTime : Option UInt64

def Effect.operation (recording : Recording) : Effect → Option MetricsOperation
  | recordNodeRequest nodeAddr =>
      some (.recordNodeRequest nodeAddr recording.cleanup recording.nodeTime)
  | recordCall method success =>
      some (.recordMethodCall method recording.latencyUs success recording.cleanup recording.times)
  | posted _ _ | slept _ => none

structure ForwardedCall where
  req : JsonRpcRequest
  attempts : Nat → Attempt
  recordings : Nat → Recording
  foreign : isMetricsRequest req.method = false

namespace ForwardedCall

variable (config : RetryConfig) (builtin : JsonRpcRequest → Except MadrpcError Value)

def forwarded (call : ForwardedCall) : Forwarded :=
  forwardRequestJsonrpc config builtin call.attempts call.req

def operations (call : ForwardedCall) : List MetricsOperation :=
  (call.forwarded config builtin).effects.zipIdx.filterMap fun (effect, index) =>
    effect.operation (call.recordings index)

theorem forwarded_eq (call : ForwardedCall) :
    call.forwarded config builtin = forwardLoop config call.req.method call.attempts
      config.maxRetries 0 config.initialBackoffMs := by
  rw [forwarded, forwardRequestJsonrpc, if_neg (by simp [call.foreign])]

theorem forwarded_isOk (call : ForwardedCall) :
    (call.forwarded config builtin).result.isOk = true ↔ Served config call.attempts := by
  rw [forwarded_eq, forwardLoop_isOk]
  simp only [Nat.zero_add, Served]

theorem records_eq (call : ForwardedCall) :
    (call.forwarded config builtin).records =
      if (call.forwarded config builtin).result.isOk then [(call.req.method, true)] else [] := by
  rw [forwarded_eq]
  exact forwardLoop_records config call.req.method call.attempts _ _ _

def Accounted (call : ForwardedCall) : Prop :=
  (call.forwarded config builtin).records =
    [(call.req.method, (call.forwarded config builtin).result.isOk)]

theorem accounted_iff_served (call : ForwardedCall) :
    call.Accounted config builtin ↔ Served config call.attempts := by
  rw [Accounted, records_eq, ← forwarded_isOk config builtin]
  cases (call.forwarded config builtin).result.isOk <;> simp

theorem countP_operations (recordings : Nat → Recording)
    (result : Except MadrpcError Value) (effects : List Effect) (start : Nat) :
    let operations := (effects.zipIdx start).filterMap fun (effect, index) =>
      effect.operation (recordings index)
    let records := (⟨result, effects⟩ : Forwarded).records
    operations.countP MetricsOperation.isCall = records.length ∧
      ∀ outcome, operations.countP (MetricsOperation.hasOutcome outcome) =
        records.countP fun record => record.2 == outcome := by
  intro operations records
  induction effects generalizing start with
  | nil => exact ⟨rfl, fun _ => rfl⟩
  | cons effect rest ih =>
      obtain ⟨number, outcomes⟩ := ih (start + 1)
      cases effect with
      | recordNodeRequest nodeAddr => exact ⟨number, outcomes⟩
      | posted url count => exact ⟨number, outcomes⟩
      | slept milliseconds => exact ⟨number, outcomes⟩
      | recordCall method success =>
          refine ⟨?_, fun outcome => ?_⟩
          · exact (List.countP_cons_of_pos rfl).trans (congrArg (· + 1) number)
          · refine List.countP_cons.trans (.trans ?_ List.countP_cons.symm)
            exact congrArg (· + if success == outcome then 1 else 0) (outcomes outcome)

theorem countP_call (call : ForwardedCall) :
    (call.operations config builtin).countP MetricsOperation.isCall =
        (if (call.forwarded config builtin).result.isOk then 1 else 0) ∧
      (call.operations config builtin).countP (MetricsOperation.hasOutcome true) =
        (if (call.forwarded config builtin).result.isOk then 1 else 0) ∧
      (call.operations config builtin).countP (MetricsOperation.hasOutcome false) = 0 := by
  have records := call.records_eq config builtin
  obtain ⟨number, outcomes⟩ := countP_operations call.recordings
    (call.forwarded config builtin).result (call.forwarded config builtin).effects 0
  rw [show (⟨(call.forwarded config builtin).result, (call.forwarded config builtin).effects⟩ :
    Forwarded).records = _ from records] at number outcomes
  refine ⟨number.trans ?_, (outcomes true).trans ?_, (outcomes false).trans ?_⟩
  · cases (call.forwarded config builtin).result.isOk <;> rfl
  · cases (call.forwarded config builtin).result.isOk <;> rfl
  · cases (call.forwarded config builtin).result.isOk <;> rfl

theorem countP_calls (calls : List ForwardedCall) :
    (calls.flatMap (operations config builtin)).countP MetricsOperation.isCall =
        (calls.countP fun call => (call.forwarded config builtin).result.isOk) ∧
      (calls.flatMap (operations config builtin)).countP (MetricsOperation.hasOutcome true) =
        (calls.countP fun call => (call.forwarded config builtin).result.isOk) ∧
      (calls.flatMap (operations config builtin)).countP (MetricsOperation.hasOutcome false) =
        0 := by
  induction calls with
  | nil => exact ⟨rfl, rfl, rfl⟩
  | cons call rest ih =>
      obtain ⟨number, successes, failures⟩ := ih
      obtain ⟨one, success, failure⟩ := countP_call config builtin call
      refine ⟨?_, ?_, ?_⟩
      · rw [List.flatMap_cons, List.countP_append, number, one, List.countP_cons, Nat.add_comm]
      · rw [List.flatMap_cons, List.countP_append, successes, success, List.countP_cons,
          Nat.add_comm]
      · rw [List.flatMap_cons, List.countP_append, failures, failure]

structure RunAccounted (calls : List ForwardedCall) (registry : MetricsRegistry) : Prop where
  each : ∀ call ∈ calls, call.Accounted config builtin
  sum : registry.totalRequests.toNat =
    registry.successfulRequests.toNat + registry.failedRequests.toNat
  number : registry.totalRequests.toNat = calls.length

/-- The calls run side by side, so that their operations come in any order. -/
theorem run_accounted_iff_served (metrics : MetricsConfig) (clock : TimestampClock)
    (calls : List ForwardedCall) (recorded : List MetricsOperation)
    (interleaved : recorded.Perm (calls.flatMap (operations config builtin))) :
    RunAccounted config builtin calls
        ((MetricsRegistry.withConfig metrics clock).record recorded) ↔
      calls.length < UInt64.size ∧ ∀ call ∈ calls, Served config call.attempts := by
  have totalled := MetricsRegistry.record_totalled metrics clock recorded
  generalize (MetricsRegistry.withConfig metrics clock).record recorded = registry at totalled
  obtain ⟨total, successful, failed⟩ := totalled
  obtain ⟨number, successes, failures⟩ := countP_calls config builtin calls
  rw [interleaved.countP_eq, number] at total
  rw [interleaved.countP_eq, successes] at successful
  rw [interleaved.countP_eq, failures] at failed
  constructor
  · rintro ⟨each, -, length⟩
    refine ⟨length ▸ registry.totalRequests.toNat_lt, fun call member => ?_⟩
    exact (accounted_iff_served config builtin call).mp (each call member)
  · rintro ⟨few, served⟩
    have all : calls.countP (fun call => (call.forwarded config builtin).result.isOk) =
        calls.length :=
      List.countP_eq_length.mpr fun call member =>
        (forwarded_isOk config builtin call).mpr (served call member)
    have unwrapped : (UInt64.ofNat calls.length).toNat = calls.length :=
      UInt64.toNat_ofNat_of_lt few
    rw [all] at total successful
    refine ⟨fun call member => ?_, ?_, ?_⟩
    · exact (accounted_iff_served config builtin call).mpr (served call member)
    · rw [total, successful, failed]
      rfl
    · rw [total, unwrapped]

def builtinNull : JsonRpcRequest → Except MadrpcError Value := fun _ => .ok .null

def answering (reply : JsonRpcResponse) : ForwardedCall where
  req := ⟨"2.0", "sum", .array [], .null⟩
  attempts _ := ⟨some "http://a", fun _ => .responded ⟨⟨200, "OK"⟩, .collected (.ok reply)⟩⟩
  recordings _ := ⟨7, ⟨some 9, [], []⟩, ⟨some 9, some 9, some 9, some 9⟩, some 9⟩
  foreign := by decide

theorem success_accounted :
    let call := answering (.success .null (.bool true))
    RunAccounted .default builtinNull [call]
      ((MetricsRegistry.withConfig .default .initial).record
        (call.operations .default builtinNull)) := by
  intro call
  refine (run_accounted_iff_served .default builtinNull .default .initial [call]
    (call.operations .default builtinNull) ?_).mpr ⟨by decide, ?_⟩
  · rw [List.flatMap_singleton]
  · intro other member
    rw [List.mem_singleton.mp member]
    exact ⟨0, Nat.zero_le _, nofun, by decide, .bool true, rfl⟩

theorem failure_unrecorded :
    let call := answering (.errorResponse .null .methodNotFound)
    let registry := (MetricsRegistry.withConfig .default .initial).record
      (call.operations .default builtinNull)
    (call.forwarded .default builtinNull).result =
        .error (.invalidRequest "Method not found: Method not found") ∧
      (call.forwarded .default builtinNull).records = [] ∧
      registry.totalRequests = 0 ∧
      ¬RunAccounted .default builtinNull [call] registry := by
  intro call registry
  have result : (call.forwarded .default builtinNull).result =
      .error (.invalidRequest "Method not found: Method not found") := by
    rw [forwarded_eq]
    exact forwardLoop_steady .default _ call.attempts _ (fun _ => Option.some_ne_none _)
      (fun _ => MadrpcClient.call_steady .default (by decide) _ _ fun _ => rfl) _ _ _
  have lost : (call.forwarded .default builtinNull).result.isOk = false := by
    rw [result]
    rfl
  have records : (call.forwarded .default builtinNull).records = [] := by
    rw [records_eq, lost]
    rfl
  have total : registry.totalRequests = 0 := by
    have counted := (MetricsRegistry.record_totalled .default .initial
      (call.operations .default builtinNull)).total
    rw [(countP_call .default builtinNull call).1, lost] at counted
    exact counted
  refine ⟨result, records, total, fun accounted => ?_⟩
  have number := accounted.number
  rw [total] at number
  cases number

end ForwardedCall

end Orchestrator

end MadRpc
