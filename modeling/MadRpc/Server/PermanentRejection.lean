import MadRpc.Client.ResponseRoundTrip
import MadRpc.Server.HttpRouter
import MadRpc.Server.HttpServer

set_option autoImplicit false

namespace MadRpc

structure NodeState (Bytes : Type) where
  serde : SerdeJson Bytes
  size : Bytes → Nat
  toStr : ByteArray → Option String
  authConfig : AuthConfig
  rateLimitResult : RateLimit.RateLimitResult
  builtin : NodeRouter.BuiltinMethods
  callRpc : String → Value → Except MadrpcError Value
  debug : JsonRpcError → String

namespace NodeState

variable {Bytes : Type} (node : NodeState Bytes)

def bodySize (req : JsonRpcRequest) : Nat := node.size (node.serde.toVec req.serialize)

def clientHeaders : HeaderMap :=
  ⟨[("content-type", "application/json".toByteArray), ("accept", "application/json".toByteArray)]⟩

def received (req : JsonRpcRequest) : NodeHttpServer.HyperRequest where
  method := "POST"
  headers := clientHeaders
  body := .collected (node.bodySize req)
    (node.serde.decode JsonRpcRequest.deserialize (node.serde.toVec req.serialize))

def respond (req : JsonRpcRequest) : HttpResponse :=
  (NodeHttpServer.handleRequest node.toStr node.authConfig node.rateLimitResult
    (fun req => (NodeRouter.handleRequest node.builtin node.callRpc req).mapError node.debug)
    (node.received req)).response

/-- The request passes the guard and is rejected for what it is: too large a body, or a call
that fails. -/
structure RejectsForGood (req : JsonRpcRequest) : Prop where
  unlimited : node.rateLimitResult = .allowed
  authorized : authorized node.toStr node.authConfig clientHeaders = true
  faithful : node.serde.Inverse req.serialize
  rejected : NodeHttpServer.MAX_BODY_SIZE < node.bodySize req ∨
    (req.method ∉ NodeRouter.handlers ∧ ∃ err, node.callRpc req.method req.params = .error err)

variable {node} {req : JsonRpcRequest}

theorem RejectsForGood.admitted (rejects : node.RejectsForGood req) :
    node.respond req = (NodeHttpServer.handleAdmitted
      (fun req => (NodeRouter.handleRequest node.builtin node.callRpc req).mapError node.debug)
      (node.received req)).response := by
  simp only [respond, NodeHttpServer.handleRequest, guarded, rejects.unlimited, received,
    rejects.authorized, Bool.not_true, Bool.false_eq_true, if_false]

theorem RejectsForGood.oversized (rejects : node.RejectsForGood req)
    (large : NodeHttpServer.MAX_BODY_SIZE < node.bodySize req) :
    node.respond req =
      NodeHttpServer.toHttpError (.requestTooLarge NodeHttpServer.MAX_BODY_SIZE) := by
  rw [rejects.admitted, NodeHttpServer.handleAdmitted]
  simp only [received, ne_eq, not_true_eq_false, if_false, if_pos large]

theorem RejectsForGood.failed (rejects : node.RejectsForGood req)
    (small : ¬ NodeHttpServer.MAX_BODY_SIZE < node.bodySize req) :
    ∃ err, node.respond req = NodeHttpServer.toHttpResponse
      (.errorResponse req.id (NodeRouter.callError err)) := by
  obtain ⟨foreign, err, failed⟩ := rejects.rejected.resolve_left small
  have decoded : node.serde.decode JsonRpcRequest.deserialize
      (node.serde.toVec req.serialize) = .ok req :=
    node.serde.decode_toVec _ _ req rejects.faithful req.deserialize_serialize
  -- The limits of the server and of the parser are the same.
  have parsed : HttpTransport.parseJsonrpc ⟨none, node.bodySize req, .ok req⟩ = .ok req := by
    rw [HttpTransport.parseJsonrpc, if_neg (show ¬ MAX_PAYLOAD_SIZE < _ from small)]
  refine ⟨err, ?_⟩
  rw [rejects.admitted, NodeHttpServer.handleAdmitted]
  simp only [received, ne_eq, not_true_eq_false, if_false, if_neg small, decoded, parsed,
    NodeRouter.handleRequest_forwarded _ _ _ foreign, failed]
  rfl

theorem tryCall_errorResponse (id : Value) (error : JsonRpcError) :
    MadrpcClient.tryCall (.responded
        (NodeHttpServer.toHttpResponse (.errorResponse id error))) =
      .error (MadrpcClient.fromJsonRpcError error.received) := rfl

theorem callError_permanent (err : MadrpcError) :
    (MadrpcClient.fromJsonRpcError (NodeRouter.callError err).received).isRetryable = false := by
  cases err <;> rfl

theorem requestTooLarge_retryable (limit : Nat) :
    (MadrpcClient.fromJsonRpcError (JsonRpcError.requestTooLarge limit).received).isRetryable =
      true := by
  rw [MadrpcClient.fromJsonRpcError_by_code]
  rfl

end NodeState

namespace MadrpcClient

/-- Posted once, with an error that no retry is meant for. -/
def Called.Permanent (called : Called) : Prop :=
  called.posts = 1 ∧ ∃ err, called.result = .error err ∧ err.isRetryable = false

theorem call_permanent_iff (config : RetryConfig) (some' : 0 < config.maxAttempts.toNat)
    (exchange : Nat → Exchange) :
    (call config exchange).Permanent ↔
      ∃ err, tryCall (exchange 0) = .error err ∧ err.isRetryable = false := by
  obtain ⟨last, stops, called⟩ := call_stops config some' exchange
  rw [called]
  constructor
  · rintro ⟨once, err, failed, permanent⟩
    obtain rfl : last = 0 := Nat.succ.inj once
    exact ⟨err, failed, permanent⟩
  · rintro ⟨err, failed, permanent⟩
    have settled : ¬ Repeated (exchange 0) := by
      rintro ⟨other, failed', retryable⟩
      rw [failed, Except.error.injEq] at failed'
      rw [failed', retryable] at permanent
      cases permanent
    obtain rfl := stops.unique (Retry.stops_here (.inr settled))
    exact ⟨rfl, err, failed, permanent⟩

end MadrpcClient

open MadrpcClient in
/-- What a request meets after its first post is left open. -/
theorem permanent_rejection_iff {Bytes : Type} (node : NodeState Bytes) (method : String)
    (params : Value) (requestId : UInt64) (config : RetryConfig)
    (some' : 0 < config.maxAttempts.toNat) (exchange : Nat → Exchange)
    (rejects : node.RejectsForGood (request method params requestId))
    (first : exchange 0 = .responded (node.respond (request method params requestId))) :
    (call config exchange).Permanent ↔
      node.bodySize (request method params requestId) ≤ NodeHttpServer.MAX_BODY_SIZE := by
  rw [call_permanent_iff config some', first]
  by_cases large :
      NodeHttpServer.MAX_BODY_SIZE < node.bodySize (request method params requestId)
  · rw [rejects.oversized large]
    refine iff_of_false ?_ (Nat.not_le.mpr large)
    rintro ⟨err, failed, permanent⟩
    cases failed
    rw [NodeState.requestTooLarge_retryable] at permanent
    cases permanent
  · obtain ⟨err, response⟩ := rejects.failed large
    rw [response, NodeState.tryCall_errorResponse]
    exact iff_of_true ⟨_, rfl, NodeState.callError_permanent err⟩ (Nat.not_lt.mp large)

def failingNode (text : List Char) (req : JsonRpcRequest) : NodeState (List Char) where
  serde :=
    { toVec _ := text
      fromSlice bytes :=
        if bytes = text then .ok req.serialize else .error "expected value at line 1 column 1"
      mismatch _ := "missing field" }
  size := List.length
  toStr _ := none
  authConfig := .disabled
  rateLimitResult := .allowed
  builtin := ⟨.null, .ok .null, .ok .null⟩
  callRpc _ _ := .error (.javaScriptExecution "Function execution error: Error: no")
  debug _ := ""

theorem failingNode_rejects (text : List Char) (req : JsonRpcRequest)
    (foreign : req.method ∉ NodeRouter.handlers) : (failingNode text req).RejectsForGood req :=
  ⟨rfl, rfl, if_pos rfl, .inr ⟨foreign, _, rfl⟩⟩

def beforeParams : List Char :=
  "\x7b\"jsonrpc\":\"2.0\",\"method\":\"compute\",\"params\":\"".toList

def afterParams : List Char := "\",\"id\":7\x7d".toList

def callText (params : List Char) : List Char := beforeParams ++ params ++ afterParams

def callOn (params : List Char) : JsonRpcRequest :=
  MadrpcClient.request "compute" (.string (String.ofList params)) 7

theorem permanent_rejection_iff_witness :
    let node := failingNode (callText []) (callOn [])
    (MadrpcClient.call .default fun _ => .responded (node.respond (callOn []))).Permanent := by
  intro node
  exact (permanent_rejection_iff node "compute" (.string "") 7 .default (by decide) _
    (failingNode_rejects (callText []) (callOn []) (by decide)) rfl).mpr (by decide)

structure PostedThrice (params : List Char) : Prop where
  rejects : (failingNode (callText params) (callOn params)).RejectsForGood (callOn params)
  called : (MadrpcClient.call .default fun _ =>
      .responded ((failingNode (callText params) (callOn params)).respond (callOn params))) =
    ⟨.error (.nodeUnavailable "Request body too large (max 10485760 bytes)"), 3⟩

theorem oversized_call (params : List Char) (long : 10485760 ≤ params.length) :
    PostedThrice params := by
  have rejects : (failingNode (callText params) (callOn params)).RejectsForGood (callOn params) :=
    failingNode_rejects (callText params) (callOn params)
      (show "compute" ∉ NodeRouter.handlers by decide)
  have large : NodeHttpServer.MAX_BODY_SIZE <
      (failingNode (callText params) (callOn params)).bodySize (callOn params) := by
    have enclosed : 0 < beforeParams.length := by decide
    change 10485760 < (beforeParams ++ params ++ afterParams).length
    rw [List.length_append, List.length_append]
    omega
  have refused : MadrpcClient.tryCall (.responded
        ((failingNode (callText params) (callOn params)).respond (callOn params))) =
      .error (.nodeUnavailable "Request body too large (max 10485760 bytes)") := by
    rw [rejects.oversized large]
    exact congrArg Except.error (MadrpcClient.fromJsonRpcError_by_code _)
  refine ⟨rejects, ?_⟩
  simp only [MadrpcClient.call, MadrpcClient.RetryConfig.default, UInt32.reduceToNat,
    MadrpcClient.callLoop, refused, MadrpcError.isRetryable, Bool.not_true, Bool.false_eq_true,
    if_false, Option.getD_some, Nat.zero_add, Nat.reduceAdd]

/-- A body over the limit is posted three times, and the error left asks for another post. -/
theorem oversized_retried :
    let params := List.replicate 10485760 'x'
    PostedThrice params ∧ ¬ (MadrpcClient.call .default fun _ => .responded
      ((failingNode (callText params) (callOn params)).respond (callOn params))).Permanent := by
  intro params
  have thrice : PostedThrice params := oversized_call params (List.length_replicate).ge
  refine ⟨thrice, ?_⟩
  rw [thrice.called]
  exact fun permanent => absurd permanent.1 (by decide)

end MadRpc
