import MadRpc.Orchestrator.Bypass
import MadRpc.Orchestrator.HttpRouter

set_option autoImplicit false

namespace MadRpc

namespace JsonRpcError

/-- No arm of the client's conversion but the last is for this code. -/
def IsExecution (code : Int32) : Prop :=
  code ∉ [PARSE_ERROR, INVALID_REQUEST, METHOD_NOT_FOUND, INVALID_PARAMS, INTERNAL_ERROR] ∧
    ¬ (-32099 ≤ code ∧ code ≤ -32001)

def IsMalformed (code : Int32) : Prop := code = PARSE_ERROR ∨ code = INVALID_REQUEST

instance (code : Int32) : Decidable (IsExecution code) :=
  inferInstanceAs (Decidable (_ ∧ _))

instance (code : Int32) : Decidable (IsMalformed code) :=
  inferInstanceAs (Decidable (_ ∨ _))

end JsonRpcError

open JsonRpcError (IsExecution IsMalformed)

theorem fromJsonRpcError_execution (error : JsonRpcError) (message : String) :
    (MadrpcClient.fromJsonRpcError error).SameVariant (.javaScriptExecution message) ↔
      IsExecution error.code := by
  have inRange : error.code = REQUEST_TOO_LARGE → -32099 ≤ error.code ∧ error.code ≤ -32001 := by
    intro large
    rw [large]
    decide
  unfold MadrpcClient.fromJsonRpcError IsExecution
  -- One case for each arm, in the order of the source.
  split_ifs with parse invalid method params internal server large
  · simp [MadrpcError.SameVariant, MadrpcError.ctorIdx, parse]
  · simp [MadrpcError.SameVariant, MadrpcError.ctorIdx, invalid]
  · simp [MadrpcError.SameVariant, MadrpcError.ctorIdx, method]
  · simp [MadrpcError.SameVariant, MadrpcError.ctorIdx, params]
  · simp [MadrpcError.SameVariant, MadrpcError.ctorIdx, internal]
  · simp [MadrpcError.SameVariant, MadrpcError.ctorIdx, server]
  · exact absurd (inRange large) server
  · simp [MadrpcError.SameVariant, MadrpcError.ctorIdx, parse, invalid, method, params, internal,
      server]

theorem fromJsonRpcError_malformed (error : JsonRpcError) (message : String) :
    (MadrpcClient.fromJsonRpcError error).SameVariant (.invalidResponse message) ↔
      IsMalformed error.code := by
  unfold MadrpcClient.fromJsonRpcError IsMalformed
  split_ifs with parse invalid method params internal server large <;>
    simp_all [MadrpcError.SameVariant, MadrpcError.ctorIdx]

def SameOutcome : Except MadrpcError Value → Except MadrpcError Value → Prop
  | .ok value, .ok other => value = other
  | .error err, .error other => err.SameVariant other
  | _, _ => False

theorem LoadBalancer.Consistent.nextNode_only {lb : LoadBalancer} (consistent : lb.Consistent)
    (nodeAddr : String) (only : lb.nodes.keys = [nodeAddr]) (serving : lb.Serving nodeAddr)
    (now : SystemTime) : (lb.nextNode now).2 = some nodeAddr := by
  rw [nextNode_correct]
  obtain ⟨listed, ready⟩ := (consistent.serving_iff nodeAddr).mp serving
  obtain ⟨position, here⟩ := List.mem_iff_getElem?.mp listed
  have within := (List.getElem?_eq_some_iff.mp here).1
  obtain ⟨next, selected, result, picked⟩ := RoundRobin.select_succeeds lb.available
    lb.enabledNodes.length lb.roundRobinIndex position within (consistent.available here ready)
  have inside := picked.within
  have returned : lb.chosen = some lb.enabledNodes[selected] := by
    simp [chosen, result, inside]
  -- Whatever is listed is a key of the map.
  obtain ⟨node, found, _⟩ := (consistent.rotation _).mp (chosen_mem lb _ returned)
  have known : lb.enabledNodes[selected] ∈ lb.nodes.keys :=
    AList.mem_keys.mp (AList.lookup_isSome.mp (by simp [found]))
  rw [only, List.mem_singleton] at known
  simp [returned, known]

open OrchestratorHttpServer (serve textResponse)

section Call

variable (bodyLimit : Nat) (builtin : OrchestratorRouter.BuiltinMethods)
  (collector : JsonRpcRequest → Except MadrpcError Value) (config : Orchestrator.RetryConfig)
  (attempts : Nat → Orchestrator.Attempt) (req : JsonRpcRequest) (size : Nat)

def HttpRequest.ofClient (req : JsonRpcRequest) (size : Nat) : HttpRequest :=
  ⟨some "application/json", size, .ok req⟩

def orchestrated : HttpResponse :=
  serve bodyLimit (OrchestratorRouter.handleRequest builtin
    (Orchestrator.forwardRequestJsonrpc config collector attempts)) (.ofClient req size)

def refusal : StatusCode :=
  if bodyLimit < size then ⟨413, "Payload Too Large"⟩ else ⟨400, "Bad Request"⟩

theorem orchestrated_refused
    (refused : ¬ (size ≤ bodyLimit ∧ size ≤ MAX_PAYLOAD_SIZE)) :
    MadrpcClient.tryCall (.responded
      (orchestrated bodyLimit builtin collector config attempts req size)) =
        .error (.invalidResponse ("HTTP error: " ++ (refusal bodyLimit size).toString)) := by
  unfold orchestrated serve refusal
  by_cases long : bodyLimit < size
  · simp only [HttpRequest.ofClient, long, if_true]
    rfl
  · have large : MAX_PAYLOAD_SIZE < size := by omega
    have json : "application/json".toList <:+: "application/json".toList := List.infix_rfl
    simp only [HttpRequest.ofClient, long, if_false, OrchestratorHttpServer.handleAdmitted, json,
      if_true, OrchestratorHttpServer.handleAdmitted.answer, HttpTransport.parseJsonrpc, large]
    rfl

theorem orchestrated_admitted (outcome : Except MadrpcError Value)
    (method : req.method ≠ "_metrics" ∧ req.method ≠ "_info" ∧ req.method ≠ "_register")
    (admitted : size ≤ bodyLimit ∧ size ≤ MAX_PAYLOAD_SIZE)
    (selected : ∀ attempt, (attempts attempt).node ≠ none)
    (steady : ∀ attempt, (Orchestrator.sendHttpRequest (attempts attempt)).result = outcome) :
    MadrpcClient.tryCall (.responded
      (orchestrated bodyLimit builtin collector config attempts req size)) =
        outcome.mapError fun err => .javaScriptExecution err.toString := by
  have json : "application/json".toList <:+: "application/json".toList := List.infix_rfl
  have forwarded : (Orchestrator.forwardRequestJsonrpc config collector attempts req).result =
      outcome := by
    have foreign : Orchestrator.isMetricsRequest req.method = false := by
      simp [Orchestrator.isMetricsRequest, method.1, method.2.1]
    rw [Orchestrator.forwardRequestJsonrpc, if_neg (by simp [foreign])]
    exact Orchestrator.forwardLoop_steady config req.method attempts outcome selected steady _ _ _
  simp only [orchestrated, serve, HttpRequest.ofClient, not_lt.mpr admitted.1, if_false,
    OrchestratorHttpServer.handleAdmitted, json, if_true,
    OrchestratorHttpServer.handleAdmitted.answer, HttpTransport.parseJsonrpc,
    not_lt.mpr admitted.2, OrchestratorRouter.handleRequest, method.1, method.2.1, method.2.2,
    OrchestratorRouter.forwardToNode, forwarded]
  cases outcome with
  | error err => rfl
  | ok value => cases value <;> rfl

/-- The reply, and the client that called the node itself, decide whether a client of the
orchestrator is told the same. -/
def Transparent (reply : JsonRpcResponse) : Prop :=
  if size ≤ bodyLimit ∧ size ≤ MAX_PAYLOAD_SIZE then ∀ err ∈ reply.error, IsExecution err.code
  else ∃ err ∈ reply.error, IsMalformed err.code

end Call

def answered (reply : JsonRpcResponse) : Exchange :=
  .responded ⟨⟨200, "OK"⟩, .collected (.ok reply)⟩

theorem tryCall_answered (reply : JsonRpcResponse) :
    MadrpcClient.tryCall (answered reply) =
      reply.error.elim (.ok (reply.result.getD .null)) fun err =>
        .error (MadrpcClient.fromJsonRpcError err) := by
  cases error : reply.error <;>
    simp [MadrpcClient.tryCall, answered, StatusCode.isSuccess, error]

theorem orchestrator_transparent (nodeAddrs : List String) (retry : MadrpcClient.RetryConfig)
    (config : Orchestrator.RetryConfig) (bodyLimit : Nat)
    (builtin : OrchestratorRouter.BuiltinMethods)
    (collector : JsonRpcRequest → Except MadrpcError Value) (method : String) (params : Value)
    (requestId : UInt64) (size : Nat) (nodeAddr : String) (reply : JsonRpcResponse)
    (lb : Nat → Nat → LoadBalancer) (now : Nat → Nat → SystemTime)
    (some' : 0 < retry.maxAttempts.toNat)
    (foreign : method ≠ "_metrics" ∧ method ≠ "_info" ∧ method ≠ "_register")
    (reachable : ∀ post attempt, (lb post attempt).Reachable nodeAddrs)
    (only : ∀ post attempt, (lb post attempt).nodes.keys = [nodeAddr])
    (serving : ∀ post attempt, (lb post attempt).Serving nodeAddr) :
    let req := MadrpcClient.request method params requestId
    let attempts post attempt : Orchestrator.Attempt :=
      ⟨((lb post attempt).nextNode (now post attempt)).2, fun _ => answered reply⟩
    let direct := (MadrpcClient.call retry fun _ => answered reply).result
    let through := (MadrpcClient.call retry fun post => .responded
      (orchestrated bodyLimit builtin collector config (attempts post) req size)).result
    SameOutcome direct through ↔ Transparent bodyLimit size reply := by
  intro req attempts direct through
  have plain : direct = MadrpcClient.tryCall (answered reply) :=
    MadrpcClient.call_steady retry some' _ _ fun _ => rfl
  rw [plain]
  by_cases admitted : size ≤ bodyLimit ∧ size ≤ MAX_PAYLOAD_SIZE
  · have selected (post attempt : Nat) : (attempts post attempt).node ≠ none := by
      have returned := (reachable post attempt).consistent.nextNode_only nodeAddr
        (only post attempt) (serving post attempt) (now post attempt)
      simp [attempts, returned]
    have relayed : through = (MadrpcClient.tryCall (answered reply)).mapError
        fun err => .javaScriptExecution err.toString :=
      MadrpcClient.call_steady retry some' _ _ fun post =>
        orchestrated_admitted bodyLimit builtin collector config (attempts post) req size _
          foreign admitted (selected post) fun attempt =>
            MadrpcClient.call_steady .default (by decide) _ _ fun _ => rfl
    rw [relayed, tryCall_answered, Transparent, if_pos admitted]
    cases error : reply.error with
    | none => simp [Except.mapError, SameOutcome]
    | some err => simp [Except.mapError, SameOutcome, fromJsonRpcError_execution]
  · have refused : through =
        .error (.invalidResponse ("HTTP error: " ++ (refusal bodyLimit size).toString)) :=
      MadrpcClient.call_steady retry some' _ _ fun post =>
        orchestrated_refused bodyLimit builtin collector config (attempts post) req size admitted
    rw [refused, tryCall_answered, Transparent, if_neg admitted]
    cases error : reply.error with
    | none => simp [SameOutcome]
    | some err => simp [SameOutcome, fromJsonRpcError_malformed]

def silent : OrchestratorRouter.BuiltinMethods :=
  ⟨fun req => .success req.id .null, fun req => .success req.id .null,
    fun req => .success req.id .null⟩

theorem orchestrator_transparent_witness :
    let reply := JsonRpcResponse.errorResponse .null (.serverError "boom")
    let attempt : Orchestrator.Attempt :=
      ⟨((LoadBalancer.new ["http://a"]).nextNode 0).2, fun _ => answered reply⟩
    SameOutcome (MadrpcClient.call .default fun _ => answered reply).result
        (MadrpcClient.call .default fun _ => .responded (orchestrated 2097152 silent
          (fun _ => .ok .null) .default (fun _ => attempt)
          (MadrpcClient.request "compute" (.array []) 1) 60)).result ↔
      Transparent 2097152 60 reply :=
  orchestrator_transparent ["http://a"] .default .default 2097152 silent (fun _ => .ok .null)
    "compute" (.array []) 1 60 "http://a" (.errorResponse .null (.serverError "boom"))
    (fun _ _ => .new ["http://a"]) (fun _ _ => 0) (by decide) (by decide)
    (fun _ _ => ⟨.default, [], rfl⟩) (fun _ _ => by decide) (fun _ _ => by decide)

theorem orchestrator_rewrites_method_not_found :
    let reply := JsonRpcResponse.errorResponse .null .methodNotFound
    let attempt : Orchestrator.Attempt :=
      ⟨((LoadBalancer.new ["http://a"]).nextNode 0).2, fun _ => answered reply⟩
    let direct := (MadrpcClient.call .default fun _ => answered reply).result
    let through := (MadrpcClient.call .default fun _ => .responded (orchestrated 2097152 silent
      (fun _ => .ok .null) .default (fun _ => attempt)
      (MadrpcClient.request "missing" (.array []) 1) 60)).result
    (∃ message, direct = .error (.invalidRequest message)) ∧
      (∃ message, through = .error (.javaScriptExecution message)) ∧
      ¬ SameOutcome direct through := by
  intro reply attempt direct through
  have relayed := MadrpcClient.call_steady .default (by decide) _ _ fun _ =>
    orchestrated_admitted 2097152 silent (fun _ => .ok .null) .default (fun _ => attempt)
      (MadrpcClient.request "missing" (.array []) 1) 60 (MadrpcClient.tryCall (answered reply))
      (by decide) (by decide) (fun _ => by decide)
      fun _ => MadrpcClient.call_steady .default (by decide) _ _ fun _ => rfl
  rw [show through = _ from relayed]
  refine ⟨⟨_, rfl⟩, ⟨_, rfl⟩, ?_⟩
  show ¬ (MadrpcError.invalidRequest _).SameVariant (.javaScriptExecution _)
  simp [MadrpcError.SameVariant, MadrpcError.ctorIdx]

end MadRpc
