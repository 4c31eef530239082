import MadRpc.Common.Error
import MadRpc.Common.JsonRpc
import MadRpc.Shared.Retry

set_option autoImplicit false

namespace MadRpc

structure StatusCode where
  code : Nat
  reason : String
  deriving DecidableEq, Repr

def StatusCode.toString (status : StatusCode) : String :=
  ToString.toString status.code ++ " " ++ status.reason

def StatusCode.isSuccess (status : StatusCode) : Bool :=
  decide (200 ≤ status.code ∧ status.code < 300)

def StatusCode.isServerError (status : StatusCode) : Bool :=
  decide (500 ≤ status.code ∧ status.code < 600)

inductive HttpBody where
  | unreadable (message : String)
  -- The collected bytes as `serde_json` decodes them, or the text of its error.
  | collected (decoded : Except String JsonRpcResponse)

structure HttpResponse where
  status : StatusCode
  body : HttpBody

inductive Exchange where
  | unbuildable (message : String)
  | failed (message : String)
  | responded (response : HttpResponse)

namespace MadrpcClient

structure RetryConfig where
  maxAttempts : UInt32
  deriving DecidableEq, Repr

def RetryConfig.default : RetryConfig where
  maxAttempts := 3

def request (method : String) (params : Value) (requestId : UInt64) : JsonRpcRequest :=
  ⟨"2.0", method, params, .number (.posInt requestId)⟩

/-- The conversion of an error reply in `try_call`. -/
def fromJsonRpcError (error : JsonRpcError) : MadrpcError :=
  if error.code = PARSE_ERROR then .invalidResponse ("Parse error: " ++ error.message)
  else if error.code = INVALID_REQUEST then .invalidResponse ("Invalid request: " ++ error.message)
  else if error.code = METHOD_NOT_FOUND then
    .invalidRequest ("Method not found: " ++ error.message)
  else if error.code = INVALID_PARAMS then .invalidRequest ("Invalid params: " ++ error.message)
  else if error.code = INTERNAL_ERROR then .nodeUnavailable ("Internal error: " ++ error.message)
  else if -32099 ≤ error.code ∧ error.code ≤ -32001 then .nodeUnavailable error.message
  -- The range above already holds this code.
  else if error.code = REQUEST_TOO_LARGE then .invalidRequest error.message
  else .javaScriptExecution error.message

def tryCall : Exchange → Except MadrpcError Value
  | .unbuildable message => .error (.invalidRequest ("Invalid HTTP request: " ++ message))
  | .failed message => .error (.transport ("HTTP request failed: " ++ message))
  | .responded response =>
      if !response.status.isSuccess then
        if response.status.isServerError then
          .error (.transport ("HTTP error: " ++ response.status.toString))
        else .error (.invalidResponse ("HTTP error: " ++ response.status.toString))
      else
        match response.body with
        | .unreadable message =>
            .error (.transport ("Failed to read response body: " ++ message))
        | .collected (.error message) =>
            .error (.invalidResponse ("Failed to parse JSON-RPC response: " ++ message))
        | .collected (.ok reply) =>
            match reply.error with
            | some error => .error (fromJsonRpcError error)
            | none => .ok (reply.result.getD .null)

structure Called where
  result : Except MadrpcError Value
  posts : Nat

def callLoop (exchange : Nat → Exchange) : Nat → Nat → Option MadrpcError → Called
  | 0, posts, lastError =>
      ⟨.error (lastError.getD (.invalidResponse "All retry attempts exhausted")), posts⟩
  | remaining + 1, posts, _ =>
      match tryCall (exchange posts) with
      | .ok result => ⟨.ok result, posts + 1⟩
      | .error err =>
          if !err.isRetryable then ⟨.error err, posts + 1⟩
          -- The delay before the next attempt is not modelled.
          else callLoop exchange remaining (posts + 1) (some err)

def call (config : RetryConfig) (exchange : Nat → Exchange) : Called :=
  callLoop exchange config.maxAttempts.toNat 0 none

def Repeated (exchange : Exchange) : Prop :=
  ∃ err, tryCall exchange = .error err ∧ err.isRetryable = true

theorem callLoop_stops (exchange : Nat → Exchange) (remaining posts : Nat)
    (lastError : Option MadrpcError) :
    ∃ last, Retry.Stops (fun later => Repeated (exchange (posts + later))) remaining last ∧
      callLoop exchange (remaining + 1) posts lastError =
        ⟨tryCall (exchange (posts + last)), posts + last + 1⟩ := by
  induction remaining generalizing posts lastError with
  | zero =>
      refine ⟨0, Retry.stops_here (.inl rfl), ?_⟩
      cases outcome : tryCall (exchange posts) with
      | ok value => simp [callLoop, outcome]
      | error err => simp [callLoop, outcome]
  | succ remaining ih =>
      by_cases again : Repeated (exchange posts)
      · obtain ⟨err, failed, retryable⟩ := again
        obtain ⟨last, stops, result⟩ := ih (posts + 1) (some err)
        refine ⟨last + 1, Retry.Stops.after ⟨err, failed, retryable⟩ ?_, ?_⟩
        · simpa only [Nat.add_assoc, Nat.add_comm 1] using stops
        · rw [callLoop, failed]
          simpa only [retryable, Bool.not_true, Bool.false_eq_true, if_false, Nat.add_assoc,
            Nat.add_comm 1] using result
      · refine ⟨0, Retry.stops_here (.inr again), ?_⟩
        cases outcome : tryCall (exchange posts) with
        | ok value => simp [callLoop, outcome]
        | error err =>
            have permanent : err.isRetryable = false := by
              rw [← Bool.not_eq_true]
              exact fun retryable => again ⟨err, outcome, retryable⟩
            simp [callLoop, outcome, permanent]

theorem call_stops (config : RetryConfig) (some' : 0 < config.maxAttempts.toNat)
    (exchange : Nat → Exchange) :
    ∃ last,
      Retry.Stops (fun post => Repeated (exchange post)) (config.maxAttempts.toNat - 1) last ∧
      call config exchange = ⟨tryCall (exchange last), last + 1⟩ := by
  obtain ⟨remaining, attempts⟩ := Nat.exists_eq_succ_of_ne_zero (Nat.pos_iff_ne_zero.mp some')
  have stopped := callLoop_stops exchange remaining 0 none
  simp only [Nat.zero_add] at stopped
  rw [call, attempts]
  exact stopped

theorem call_steady (config : RetryConfig) (some' : 0 < config.maxAttempts.toNat)
    (exchange : Nat → Exchange) (outcome : Except MadrpcError Value)
    (steady : ∀ post, tryCall (exchange post) = outcome) :
    (call config exchange).result = outcome := by
  obtain ⟨last, _, called⟩ := call_stops config some' exchange
  rw [called]
  exact steady last

theorem call_never (config : RetryConfig) (none' : config.maxAttempts.toNat = 0)
    (exchange : Nat → Exchange) :
    (call config exchange).result =
      .error (.invalidResponse "All retry attempts exhausted") := by
  rw [call, none']
  rfl

end MadrpcClient

end MadRpc
