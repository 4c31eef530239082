import MadRpc.Orchestrator.Forwarding

set_option autoImplicit false

namespace MadRpc.Orchestrator

open MadrpcClient (Called Repeated)

def sendHttpRequestVia (client : MadrpcClient.RetryConfig) (attempt : Attempt) : Called :=
  MadrpcClient.call client attempt.exchange

/-- The loop of `forward_request_jsonrpc` for a client with the given configuration; the
source makes every client with the default one. -/
def forwardLoopVia (client : MadrpcClient.RetryConfig) (config : RetryConfig) (method : String)
    (attempts : Nat → Attempt) : Nat → Nat → UInt64 → Forwarded
  | retriesLeft, attempt, backoffMs =>
      match (attempts attempt).node with
      | none =>
          ⟨.error (if 0 < retriesLeft then noAvailableNodes config attempt else .allNodesFailed),
            []⟩
      | some nodeAddr =>
          let sent := sendHttpRequestVia client (attempts attempt)
          match retriesLeft, sent.result with
          | retriesLeft + 1, .error err =>
              if isRetryable err then
                (forwardLoopVia client config method attempts retriesLeft (attempt + 1)
                  (nextBackoff config backoffMs)).after
                    (contacted nodeAddr sent ++ [.slept backoffMs])
              else (settle method (.error err)).after (contacted nodeAddr sent)
          | _, response => (settle method response).after (contacted nodeAddr sent)

def forwardRequestVia (client : MadrpcClient.RetryConfig) (config : RetryConfig)
    (builtin : JsonRpcRequest → Except MadrpcError Value) (attempts : Nat → Attempt)
    (req : JsonRpcRequest) : Forwarded :=
  if isMetricsRequest req.method then ⟨builtin req, []⟩
  else
    forwardLoopVia client config req.method attempts config.maxRetries 0 config.initialBackoffMs

theorem forwardLoopVia_default (config : RetryConfig) (method : String)
    (attempts : Nat → Attempt) (retriesLeft attempt : Nat) (backoffMs : UInt64) :
    forwardLoopVia .default config method attempts retriesLeft attempt backoffMs =
      forwardLoop config method attempts retriesLeft attempt backoffMs := by
  induction retriesLeft generalizing attempt backoffMs with
  | zero =>
      rw [forwardLoopVia, forwardLoop]
      rfl
  | succ retriesLeft ih =>
      have same : sendHttpRequestVia .default (attempts attempt) =
          sendHttpRequest (attempts attempt) := rfl
      rw [forwardLoopVia, forwardLoop]
      cases (attempts attempt).node with
      | none => rfl
      | some nodeAddr =>
          simp only [same]
          cases (sendHttpRequest (attempts attempt)).result with
          | ok response => rfl
          | error err => simp only [ih]

theorem forwardRequestVia_default (config : RetryConfig)
    (builtin : JsonRpcRequest → Except MadrpcError Value) (attempts : Nat → Attempt)
    (req : JsonRpcRequest) :
    forwardRequestVia .default config builtin attempts req =
      forwardRequestJsonrpc config builtin attempts req := by
  rw [forwardRequestVia, forwardRequestJsonrpc, forwardLoopVia_default]

namespace Forwarded

def tried (forwarded : Forwarded) : List String :=
  forwarded.effects.filterMap fun effect =>
    match effect with
    | .recordNodeRequest nodeAddr => some nodeAddr
    | _ => none

def posted (forwarded : Forwarded) : List (String × Nat) :=
  forwarded.effects.filterMap fun effect =>
    match effect with
    | .posted url count => some (url, count)
    | _ => none

theorem tried_settle (method : String) (response : Except MadrpcError Value) (nodeAddr : String)
    (sent : Called) :
    ((settle method response).after (contacted nodeAddr sent)).tried = [nodeAddr] := by
  cases response <;> rfl

theorem posted_settle (method : String) (response : Except MadrpcError Value) (nodeAddr : String)
    (sent : Called) :
    ((settle method response).after (contacted nodeAddr sent)).posted =
      [(baseUrl nodeAddr, sent.posts)] := by
  cases response <;> rfl

theorem tried_retried (forwarded : Forwarded) (nodeAddr : String) (sent : Called)
    (backoffMs : UInt64) :
    (forwarded.after (contacted nodeAddr sent ++ [.slept backoffMs])).tried =
      nodeAddr :: forwarded.tried := rfl

theorem posted_retried (forwarded : Forwarded) (nodeAddr : String) (sent : Called)
    (backoffMs : UInt64) :
    (forwarded.after (contacted nodeAddr sent ++ [.slept backoffMs])).posted =
      (baseUrl nodeAddr, sent.posts) :: forwarded.posted := rfl

end Forwarded

section Stops

variable (client : MadrpcClient.RetryConfig) (config : RetryConfig) (method : String)
  (attempts : Nat → Attempt) (nodeAddr : Nat → String)

def RetriedVia (attempt : Attempt) : Prop :=
  ∃ err, (sendHttpRequestVia client attempt).result = .error err ∧ isRetryable err = true

structure EndsWith (attempt last : Nat) (forwarded : Forwarded) : Prop where
  result : forwarded.result = (sendHttpRequestVia client (attempts (attempt + last))).result
  tried : forwarded.tried = (List.range' attempt (last + 1)).map nodeAddr
  posted : forwarded.posted = (List.range' attempt (last + 1)).map fun attempt =>
    (baseUrl (nodeAddr attempt), (sendHttpRequestVia client (attempts attempt)).posts)

variable {attempts nodeAddr}

theorem forwardLoopVia_settled (retriesLeft attempt : Nat) (backoffMs : UInt64)
    (selected : (attempts attempt).node = some (nodeAddr attempt))
    (final : retriesLeft = 0 ∨ ¬ RetriedVia client (attempts attempt)) :
    EndsWith client attempts nodeAddr attempt 0
      (forwardLoopVia client config method attempts retriesLeft attempt backoffMs) := by
  have settled : forwardLoopVia client config method attempts retriesLeft attempt backoffMs =
      (settle method (sendHttpRequestVia client (attempts attempt)).result).after
        (contacted (nodeAddr attempt) (sendHttpRequestVia client (attempts attempt))) := by
    rw [forwardLoopVia, selected]
    cases retriesLeft with
    | zero => rfl
    | succ retriesLeft =>
        cases outcome : (sendHttpRequestVia client (attempts attempt)).result with
        | ok response => simp only [outcome]
        | error err =>
            have permanent : isRetryable err = false := by
              rw [← Bool.not_eq_true]
              exact fun retryable => final.elim nofun (· ⟨err, outcome, retryable⟩)
            simp only [outcome, permanent, Bool.false_eq_true, if_false]
  rw [settled]
  exact ⟨settle_result _ _, Forwarded.tried_settle _ _ _ _, Forwarded.posted_settle _ _ _ _⟩

theorem forwardLoopVia_retried (retriesLeft attempt last : Nat) (backoffMs : UInt64)
    (selected : (attempts attempt).node = some (nodeAddr attempt))
    (again : RetriedVia client (attempts attempt))
    (later : EndsWith client attempts nodeAddr (attempt + 1) last
      (forwardLoopVia client config method attempts retriesLeft (attempt + 1)
        (nextBackoff config backoffMs))) :
    EndsWith client attempts nodeAddr attempt (last + 1)
      (forwardLoopVia client config method attempts (retriesLeft + 1) attempt backoffMs) := by
  obtain ⟨err, failed, retryable⟩ := again
  rw [forwardLoopVia, selected]
  simp only [failed, retryable, if_true]
  constructor
  · rw [Forwarded.after_result, later.result, Nat.add_assoc, Nat.add_comm 1]
  · rw [Forwarded.tried_retried, later.tried]
    rfl
  · rw [Forwarded.posted_retried, later.posted]
    rfl

theorem forwardLoopVia_stops (retriesLeft attempt : Nat) (backoffMs : UInt64)
    (selected : ∀ later ≤ retriesLeft,
      (attempts (attempt + later)).node = some (nodeAddr (attempt + later))) :
    ∃ last, Retry.Stops (fun later => RetriedVia client (attempts (attempt + later)))
        retriesLeft last ∧
      EndsWith client attempts nodeAddr attempt last
        (forwardLoopVia client config method attempts retriesLeft attempt backoffMs) := by
  have here := selected 0 (Nat.zero_le _)
  induction retriesLeft generalizing attempt backoffMs with
  | zero =>
      exact ⟨0, Retry.stops_here (.inl rfl),
        forwardLoopVia_settled client config method 0 attempt backoffMs here (.inl rfl)⟩
  | succ retriesLeft ih =>
      have moved (later : Nat) : attempt + 1 + later = attempt + (later + 1) := by omega
      by_cases again : RetriedVia client (attempts attempt)
      · have next (later : Nat) (within : later ≤ retriesLeft) :
            (attempts (attempt + 1 + later)).node = some (nodeAddr (attempt + 1 + later)) :=
          moved later ▸ selected (later + 1) (Nat.succ_le_succ within)
        obtain ⟨last, stops, ends⟩ :=
          ih (attempt + 1) (nextBackoff config backoffMs) next (next 0 (Nat.zero_le _))
        refine ⟨last + 1, Retry.Stops.after again ?_,
          forwardLoopVia_retried client config method retriesLeft attempt last backoffMs here again
            ends⟩
        simpa only [moved] using stops
      · exact ⟨0, Retry.stops_here (.inr again),
          forwardLoopVia_settled client config method _ attempt backoffMs here (.inr again)⟩

theorem forwardRequestVia_stops (builtin : JsonRpcRequest → Except MadrpcError Value)
    (req : JsonRpcRequest) (forwards : isMetricsRequest req.method = false)
    (selected : ∀ attempt ≤ config.maxRetries,
      (attempts attempt).node = some (nodeAddr attempt)) :
    ∃ last, Retry.Stops (fun attempt => RetriedVia client (attempts attempt))
        config.maxRetries last ∧
      EndsWith client attempts nodeAddr 0 last
        (forwardRequestVia client config builtin attempts req) := by
  have stopped := @forwardLoopVia_stops client config req.method attempts nodeAddr
    config.maxRetries 0 config.initialBackoffMs
  simp only [Nat.zero_add] at stopped
  rw [forwardRequestVia, forwards]
  exact stopped selected

end Stops

end MadRpc.Orchestrator
