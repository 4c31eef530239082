import MadRpc.Client.Client
import MadRpc.Orchestrator.Orchestrator

set_option autoImplicit false

namespace MadRpc.Orchestrator

open MadrpcClient (Called)

structure RetryConfig where
  maxRetries : Nat
  initialBackoffMs : UInt64
  maxBackoffMs : UInt64
  -- A finite float, with exact arithmetic on it.
  backoffMultiplier : Rat
  deriving DecidableEq, Repr

def RetryConfig.default : RetryConfig where
  maxRetries := 3
  initialBackoffMs := 50
  maxBackoffMs := 5000
  backoffMultiplier := 2

def isRetryable : MadrpcError → Bool
  | .allNodesFailed | .nodeUnavailable _ => true
  | _ => false

def isMetricsRequest (method : String) : Bool := method = "_metrics" || method = "_info"

structure Attempt where
  node : Option String
  exchange : Nat → Exchange

inductive Effect where
  | recordNodeRequest (nodeAddr : String)
  | posted (url : String) (count : Nat)
  | slept (milliseconds : UInt64)
  | recordCall (method : String) (success : Bool)
  deriving DecidableEq, Repr

structure Forwarded where
  result : Except MadrpcError Value
  effects : List Effect

def Forwarded.after (earlier : List Effect) (forwarded : Forwarded) : Forwarded :=
  { forwarded with effects := earlier ++ forwarded.effects }

def Forwarded.records (forwarded : Forwarded) : List (String × Bool) :=
  forwarded.effects.filterMap fun effect =>
    match effect with
    | .recordCall method success => some (method, success)
    | _ => none

def baseUrl (nodeAddr : String) : String :=
  if isHttpUrl nodeAddr then nodeAddr else "http://" ++ nodeAddr

def sendHttpRequest (attempt : Attempt) : Called := MadrpcClient.call .default attempt.exchange

def contacted (nodeAddr : String) (sent : Called) : List Effect :=
  [.recordNodeRequest nodeAddr, .posted (baseUrl nodeAddr) sent.posts]

def nextBackoff (config : RetryConfig) (backoffMs : UInt64) : UInt64 :=
  min (castU64 (backoffMs.toNat * config.backoffMultiplier)) config.maxBackoffMs

def noAvailableNodes (config : RetryConfig) (attempt : Nat) : MadrpcError :=
  .nodeUnavailable ("No available nodes (attempt " ++ toString (attempt + 1) ++ "/" ++
    toString ((config.maxRetries + 1) % 2 ^ 64) ++ ")")

def settle (method : String) : Except MadrpcError Value → Forwarded
  -- An error leaves through the question mark, before `record_call`.
  | .error err => ⟨.error err, []⟩
  | .ok response => ⟨.ok response, [.recordCall method true]⟩

def forwardLoop (config : RetryConfig) (method : String) (attempts : Nat → Attempt) :
    Nat → Nat → UInt64 → Forwarded
  | retriesLeft, attempt, backoffMs =>
      match (attempts attempt).node with
      | none =>
          ⟨.error (if 0 < retriesLeft then noAvailableNodes config attempt else .allNodesFailed),
            []⟩
      | some nodeAddr =>
          let sent := sendHttpRequest (attempts attempt)
          match retriesLeft, sent.result with
          | retriesLeft + 1, .error err =>
              if isRetryable err then
                (forwardLoop config method attempts retriesLeft (attempt + 1)
                  (nextBackoff config backoffMs)).after
                    (contacted nodeAddr sent ++ [.slept backoffMs])
              else (settle method (.error err)).after (contacted nodeAddr sent)
          | _, response => (settle method response).after (contacted nodeAddr sent)

/-- `builtin` is the answer of the metrics collector to the methods it keeps for itself. -/
def forwardRequestJsonrpc (config : RetryConfig)
    (builtin : JsonRpcRequest → Except MadrpcError Value) (attempts : Nat → Attempt)
    (req : JsonRpcRequest) : Forwarded :=
  if isMetricsRequest req.method then ⟨builtin req, []⟩
  else forwardLoop config req.method attempts config.maxRetries 0 config.initialBackoffMs

section Attempt

variable (config : RetryConfig) (method : String) (attempts : Nat → Attempt)
  (retriesLeft attempt : Nat) (backoffMs : UInt64)

theorem forwardLoop_unselected (unselected : (attempts attempt).node = none) :
    forwardLoop config method attempts retriesLeft attempt backoffMs =
      ⟨.error (if 0 < retriesLeft then noAvailableNodes config attempt else .allNodesFailed),
        []⟩ := by
  rw [forwardLoop, unselected]

theorem forwardLoop_retried (nodeAddr : String) (err : MadrpcError)
    (selected : (attempts attempt).node = some nodeAddr)
    (failed : (sendHttpRequest (attempts attempt)).result = .error err)
    (retryable : isRetryable err = true) :
    forwardLoop config method attempts (retriesLeft + 1) attempt backoffMs =
      (forwardLoop config method attempts retriesLeft (attempt + 1)
        (nextBackoff config backoffMs)).after
          (contacted nodeAddr (sendHttpRequest (attempts attempt)) ++ [.slept backoffMs]) := by
  rw [forwardLoop, selected]
  simp only [failed, retryable, if_true]

theorem forwardLoop_settled (nodeAddr : String)
    (selected : (attempts attempt).node = some nodeAddr)
    (last : retriesLeft = 0 ∨ ∀ err, (sendHttpRequest (attempts attempt)).result = .error err →
      isRetryable err = false) :
    forwardLoop config method attempts retriesLeft attempt backoffMs =
      (settle method (sendHttpRequest (attempts attempt)).result).after
        (contacted nodeAddr (sendHttpRequest (attempts attempt))) := by
  rw [forwardLoop, selected]
  cases retriesLeft with
  | zero => rfl
  | succ retriesLeft =>
      cases outcome : (sendHttpRequest (attempts attempt)).result with
      | ok response => simp only [outcome]
      | error err =>
          have permanent : isRetryable err = false := by simpa [outcome] using last
          simp only [outcome, permanent, Bool.false_eq_true, if_false]

inductive LoopStep (forwarded : Forwarded) : Prop where
  | unselected (err : MadrpcError) (none : (attempts attempt).node = none)
      (result : forwarded = ⟨.error err, []⟩)
  | retried (nodeAddr : String) (err : MadrpcError) (retries : Nat)
      (left : retriesLeft = retries + 1) (selected : (attempts attempt).node = some nodeAddr)
      (failed : (sendHttpRequest (attempts attempt)).result = .error err)
      (retryable : isRetryable err = true)
      (result : forwarded =
        (forwardLoop config method attempts retries (attempt + 1)
          (nextBackoff config backoffMs)).after
            (contacted nodeAddr (sendHttpRequest (attempts attempt)) ++ [.slept backoffMs]))
  | settled (nodeAddr : String) (selected : (attempts attempt).node = some nodeAddr)
      (last : retriesLeft = 0 ∨ ∀ err, (sendHttpRequest (attempts attempt)).result = .error err →
        isRetryable err = false)
      (result : forwarded =
        (settle method (sendHttpRequest (attempts attempt)).result).after
          (contacted nodeAddr (sendHttpRequest (attempts attempt))))

theorem forwardLoop_cases :
    LoopStep config method attempts retriesLeft attempt backoffMs
      (forwardLoop config method attempts retriesLeft attempt backoffMs) := by
  cases node : (attempts attempt).node with
  | none => exact .unselected _ node (forwardLoop_unselected _ _ _ _ _ _ node)
  | some nodeAddr =>
      by_cases last : retriesLeft = 0 ∨
          ∀ err, (sendHttpRequest (attempts attempt)).result = .error err →
            isRetryable err = false
      · exact .settled nodeAddr node last (forwardLoop_settled _ _ _ _ _ _ nodeAddr node last)
      · push Not at last
        obtain ⟨left, err, failed, retryable⟩ := last
        obtain ⟨retries, rfl⟩ := Nat.exists_eq_succ_of_ne_zero left
        rw [ne_eq, Bool.not_eq_false] at retryable
        exact .retried nodeAddr err retries rfl node failed retryable
          (forwardLoop_retried _ _ _ _ _ _ nodeAddr err node failed retryable)

variable {config method attempts}

/-- What holds of each way an attempt ends, given that it holds of the attempts after a retry,
holds of the loop. -/
theorem forwardLoop_induction {motive : Nat → Nat → Forwarded → Prop}
    (unselected : ∀ retriesLeft attempt err, (attempts attempt).node = none →
      motive retriesLeft attempt ⟨.error err, []⟩)
    (retried : ∀ retriesLeft attempt backoffMs nodeAddr err forwarded,
      (attempts attempt).node = some nodeAddr →
      (sendHttpRequest (attempts attempt)).result = .error err → isRetryable err = true →
      motive retriesLeft (attempt + 1) forwarded →
      motive (retriesLeft + 1) attempt (forwarded.after
        (contacted nodeAddr (sendHttpRequest (attempts attempt)) ++ [.slept backoffMs])))
    (settled : ∀ retriesLeft attempt nodeAddr, (attempts attempt).node = some nodeAddr →
      (retriesLeft = 0 ∨ ∀ err, (sendHttpRequest (attempts attempt)).result = .error err →
        isRetryable err = false) →
      motive retriesLeft attempt ((settle method (sendHttpRequest (attempts attempt)).result).after
        (contacted nodeAddr (sendHttpRequest (attempts attempt))))) :
    motive retriesLeft attempt
      (forwardLoop config method attempts retriesLeft attempt backoffMs) := by
  induction retriesLeft using Nat.strongRecOn generalizing attempt backoffMs with
  | ind retriesLeft ih =>
    have stepped := forwardLoop_cases config method attempts retriesLeft attempt backoffMs
    generalize forwardLoop config method attempts retriesLeft attempt backoffMs = forwarded
      at stepped
    cases stepped with
    | unselected err none result => exact result ▸ unselected retriesLeft attempt err none
    | retried nodeAddr err retries left selected failed retryable result =>
        subst left result
        exact retried retries attempt backoffMs nodeAddr err _ selected failed retryable
          (ih retries (Nat.lt_succ_self retries) (attempt + 1) (nextBackoff config backoffMs))
    | settled nodeAddr selected last result =>
        exact result ▸ settled retriesLeft attempt nodeAddr selected last

end Attempt

@[simp]
theorem Forwarded.after_result (earlier : List Effect) (forwarded : Forwarded) :
    (forwarded.after earlier).result = forwarded.result := rfl

@[simp]
theorem Forwarded.after_records (earlier : List Effect) (forwarded : Forwarded) :
    (forwarded.after earlier).records =
      (⟨forwarded.result, earlier⟩ : Forwarded).records ++ forwarded.records := by
  simp [records, after]

@[simp]
theorem settle_result (method : String) (response : Except MadrpcError Value) :
    (settle method response).result = response := by
  cases response <;> rfl

theorem forwardLoop_steady (config : RetryConfig) (method : String) (attempts : Nat → Attempt)
    (outcome : Except MadrpcError Value)
    (selected : ∀ attempt, (attempts attempt).node ≠ none)
    (steady : ∀ attempt, (sendHttpRequest (attempts attempt)).result = outcome)
    (retriesLeft attempt : Nat) (backoffMs : UInt64) :
    (forwardLoop config method attempts retriesLeft attempt backoffMs).result = outcome := by
  refine forwardLoop_induction (motive := fun _ _ forwarded => forwarded.result = outcome)
    retriesLeft attempt backoffMs ?_ ?_ ?_
  · intro _ attempt _ none
    exact absurd none (selected attempt)
  · intro _ _ _ _ _ _ _ _ _ ih
    exact ih
  · intro _ attempt _ _ _
    rw [Forwarded.after_result, settle_result]
    exact steady attempt

end MadRpc.Orchestrator
