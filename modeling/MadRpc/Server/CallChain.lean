import MadRpc.Orchestrator.RetryContract
import MadRpc.Server.Calls

set_option autoImplicit false

namespace MadRpc

/-- A post of the orchestrator, with the node as it finds it. -/
structure NodePost where
  server : Server
  node : server.serverType = .node
  procedures : Procedures
  delivery : Delivery
  requestId : UInt64

structure ChainAttempt where
  node : Option String
  posts : Nat → NodePost

structure ChainPost where
  attempts : Nat → ChainAttempt
  delivery : Delivery

structure Relay where
  config : Orchestrator.RetryConfig
  builtin : OrchestratorRouter.BuiltinMethods
  collector : JsonRpcRequest → Except MadrpcError Value

/-- A call of the function on a node, and the post of the client that has led to it. -/
structure Execution where
  delivery : Delivery
  post : NodePost

namespace NodePost

def exchange (method : String) (params : Value) (post : NodePost) : Exchange :=
  post.delivery.exchange (post.server.handleRequest post.procedures
    (MadrpcClient.request method params post.requestId))

def outcome (method : String) (params : Value) (post : NodePost) : Except MadrpcError Value :=
  post.procedures.callRpc method params

end NodePost

namespace ChainAttempt

def attempt (method : String) (params : Value) (attempt : ChainAttempt) : Orchestrator.Attempt :=
  ⟨attempt.node, fun made => (attempt.posts made).exchange method params⟩

def executions (attempt : ChainAttempt) (made : Nat) : List NodePost :=
  (List.range made).flatMap fun post =>
    if (attempt.posts post).delivery.arrives then [attempt.posts post] else []

end ChainAttempt

def executedFrom (attempts : Nat → ChainAttempt) : Nat → List (String × Nat) → List NodePost
  | _, [] => []
  | attempt, (_, made) :: rest =>
      (attempts attempt).executions made ++ executedFrom attempts (attempt + 1) rest

namespace ChainPost

section

variable (relay : Relay) (req : JsonRpcRequest) (post : ChainPost)

def forwarded : JsonRpcRequest → Orchestrator.Forwarded :=
  Orchestrator.forwardRequestJsonrpc relay.config relay.collector fun attempt =>
    (post.attempts attempt).attempt req.method req.params

def exchange : Exchange :=
  post.delivery.exchange
    (OrchestratorRouter.handleRequest relay.builtin (post.forwarded relay req) req)

def executions : List Execution :=
  if post.delivery.arrives then
    (executedFrom post.attempts 0 (post.forwarded relay req req).posted).map
      (Execution.mk post.delivery)
  else []

end

def called (relay : Relay) (retry : MadrpcClient.RetryConfig) (req : JsonRpcRequest)
    (posts : Nat → ChainPost) : MadrpcClient.Called :=
  MadrpcClient.call retry fun made => (posts made).exchange relay req

def executed (relay : Relay) (retry : MadrpcClient.RetryConfig) (req : JsonRpcRequest)
    (posts : Nat → ChainPost) : List Execution :=
  (List.range (called relay retry req posts).posts).flatMap fun made =>
    (posts made).executions relay req

end ChainPost

/-! ## What is heard of an execution -/

/-- What the client of the orchestrator makes of the reply of a node. -/
def relayed (outcome : Except MadrpcError Value) : Except MadrpcError Value :=
  outcome.mapError fun e => MadrpcClient.fromJsonRpcError (NodeRouter.callError e)

def relayedTwice (outcome : Except MadrpcError Value) : Except MadrpcError Value :=
  (relayed outcome).mapError fun e => .javaScriptExecution e.toString

def Execution.heard (execution : Execution) : Prop :=
  execution.delivery.answers = true ∧ execution.post.delivery.answers = true

def Again (retryable : MadrpcError → Bool) (result : Except MadrpcError Value) : Prop :=
  ∃ err, result = .error err ∧ retryable err = true

theorem relayed_final (outcome : Except MadrpcError Value) :
    ¬ Again MadrpcError.isRetryable (relayed outcome) ∧
      ¬ Again Orchestrator.isRetryable (relayed outcome) := by
  cases outcome with
  | ok => exact ⟨nofun, nofun⟩
  | error e =>
      constructor <;>
      · rintro ⟨err, failed, retryable⟩
        cases failed
        cases e <;> cases retryable

section

variable {method : String} {params : Value}

theorem Server.handleRequest_foreign (procedures : Procedures) (server : Server)
    (req : JsonRpcRequest) (node : server.serverType = .node)
    (foreign : req.method ∉ NodeRouter.handlers) :
    server.handleRequest procedures req =
      NodeRouter.callResponse req.id (procedures.callRpc req.method req.params) := by
  cases server with
  | orchestrator => cases node
  | node registry activeConnections uptimeMs =>
      simp only [Server.handleRequest, NodeRouter.handleRequest_forwarded _ _ req foreign]

theorem Delivery.tryCall_error {delivery : Delivery} (answers : delivery.answers = true)
    (id : Value) (error : JsonRpcError) :
    MadrpcClient.tryCall (delivery.exchange (.errorResponse id error)) =
      .error (MadrpcClient.fromJsonRpcError error) := by
  cases delivery with
  | answered => rfl
  | _ => cases answers

theorem NodePost.tryCall_answered (foreign : method ∉ NodeRouter.handlers) (post : NodePost)
    (answers : post.delivery.answers = true) :
    MadrpcClient.tryCall (post.exchange method params) = relayed (post.outcome method params) := by
  rw [NodePost.exchange, Server.handleRequest_foreign _ _ _ post.node foreign]
  simp only [MadrpcClient.request, NodePost.outcome]
  cases post.procedures.callRpc method params with
  | ok value => exact Delivery.tryCall_success answers _ value
  | error e => exact Delivery.tryCall_error answers _ _

end

/-! ## Attempts of the orchestrator -/

/-- An error leaves, or what the last execution has come to. -/
abbrev NodeDecides (method : String) (params : Value) :=
  Retry.Decides (fun post : NodePost => post.delivery.answers = true)
    (fun post => relayed (post.outcome method params))
    fun result : Except MadrpcError Value => ∃ e, result = .error e

section

variable {method : String} {params : Value} (foreign : method ∉ NodeRouter.handlers)

include foreign in
theorem NodePost.decides (post : NodePost) :
    NodeDecides method params (if post.delivery.arrives then [post] else [])
      (MadrpcClient.tryCall (post.exchange method params)) := by
  have unheard (silent : ¬ post.delivery.answers = true) :=
    Delivery.tryCall_unanswered (Bool.eq_false_iff.mpr silent)
      (post.server.handleRequest post.procedures
        (MadrpcClient.request method params post.requestId))
  cases arrives : post.delivery.arrives with
  | true => exact .single (post.tryCall_answered foreign) unheard
  | false =>
      refine .silent (List.forall_mem_nil _) (unheard fun answers => ?_)
      cases delivery : post.delivery <;> simp_all [Delivery.arrives, Delivery.answers]

include foreign in
theorem ChainAttempt.decides (attempt : ChainAttempt) :
    NodeDecides method params
        (attempt.executions (Orchestrator.sendHttpRequest (attempt.attempt method params)).posts)
        (Orchestrator.sendHttpRequest (attempt.attempt method params)).result ∧
      (attempt.executions
        (Orchestrator.sendHttpRequest (attempt.attempt method params)).posts).length ≤ 3 := by
  obtain ⟨last, stops, called⟩ := MadrpcClient.call_stops .default (by decide)
    fun made => (attempt.posts made).exchange method params
  have sent : Orchestrator.sendHttpRequest (attempt.attempt method params) = _ := called
  rw [sent]
  constructor
  · exact Retry.Decides.series (Again MadrpcError.isRetryable)
      (fun made => (attempt.posts made).decides foreign) (fun _ _ => (relayed_final _).1) stops
  · refine (Orchestrator.flatMap_length_le _ _ 1 fun made _ => ?_).trans ?_
    · split <;> simp
    · have within : last ≤ 2 := stops.within
      show 1 * (List.range (last + 1)).length ≤ 3
      rw [List.length_range]
      omega

include foreign in
theorem forwardLoop_decides (config : Orchestrator.RetryConfig) (attempts : Nat → ChainAttempt)
    (retriesLeft attempt : Nat) (backoffMs : UInt64) :
    let forwarded := Orchestrator.forwardLoop config method
      (fun attempt => (attempts attempt).attempt method params) retriesLeft attempt backoffMs
    NodeDecides method params (executedFrom attempts attempt forwarded.posted) forwarded.result ∧
      (executedFrom attempts attempt forwarded.posted).length ≤ 3 * (retriesLeft + 1) := by
  refine Orchestrator.forwardLoop_induction
    (motive := fun retriesLeft attempt forwarded =>
      NodeDecides method params (executedFrom attempts attempt forwarded.posted)
        forwarded.result ∧
      (executedFrom attempts attempt forwarded.posted).length ≤ 3 * (retriesLeft + 1))
    _ _ _ ?_ ?_ ?_
  · exact fun _ _ err _ => ⟨.silent (List.forall_mem_nil _) ⟨err, rfl⟩, Nat.zero_le _⟩
  · intro retriesLeft attempt backoffMs nodeAddr err forwarded _ failed retryable later
    obtain ⟨here, few⟩ := @ChainAttempt.decides method params foreign (attempts attempt)
    rw [Orchestrator.Forwarded.posted_retried, executedFrom]
    constructor
    · exact later.1.append (here.unheard_of_again (Again Orchestrator.isRetryable)
        (fun _ _ => (relayed_final _).2) ⟨err, failed, retryable⟩)
    · have rest := later.2
      rw [List.length_append]
      omega
  · intro retriesLeft attempt nodeAddr _ _
    obtain ⟨here, few⟩ := @ChainAttempt.decides method params foreign (attempts attempt)
    rw [Orchestrator.Forwarded.posted_settle, executedFrom, executedFrom, List.append_nil,
      Orchestrator.Forwarded.after_result, Orchestrator.settle_result]
    exact ⟨here, by omega⟩

end

/-! ## Posts of the client -/

abbrev ChainDecides (method : String) (params : Value) :=
  Retry.Decides Execution.heard
    (fun execution => relayedTwice (execution.post.outcome method params))
    fun result : Except MadrpcError Value => ∃ e, result = .error e

section

variable {relay : Relay} {req : JsonRpcRequest}
  (foreign : req.method ∉ "_register" :: NodeRouter.handlers)

include foreign in
theorem ChainPost.forwarded_eq (post : ChainPost) :
    post.forwarded relay req req = Orchestrator.forwardLoop relay.config req.method
      (fun attempt => (post.attempts attempt).attempt req.method req.params)
      relay.config.maxRetries 0 relay.config.initialBackoffMs := by
  simp only [NodeRouter.handlers, List.mem_cons, List.not_mem_nil, or_false, not_or] at foreign
  rw [ChainPost.forwarded, Orchestrator.forwardRequestJsonrpc, if_neg]
  simp [Orchestrator.isMetricsRequest, foreign.2.2.1, foreign.2.2.2]

include foreign in
theorem ChainPost.forwarded_decides (post : ChainPost) :
    NodeDecides req.method req.params
        (executedFrom post.attempts 0 (post.forwarded relay req req).posted)
        (post.forwarded relay req req).result ∧
      (executedFrom post.attempts 0 (post.forwarded relay req req).posted).length ≤
        3 * (relay.config.maxRetries + 1) := by
  rw [ChainPost.forwarded_eq foreign post]
  exact forwardLoop_decides (not_or.mp (List.mem_cons.not.mp foreign)).2 relay.config
    post.attempts _ _ _

include foreign in
theorem ChainPost.tryCall_answered (post : ChainPost) (answers : post.delivery.answers = true) :
    MadrpcClient.tryCall (post.exchange relay req) =
      ((post.forwarded relay req req).result).mapError fun e =>
        .javaScriptExecution e.toString := by
  simp only [NodeRouter.handlers, List.mem_cons, List.not_mem_nil, or_false, not_or] at foreign
  rw [ChainPost.exchange, OrchestratorRouter.handleRequest, if_neg foreign.2.2.1,
    if_neg foreign.2.2.2, if_neg foreign.1, OrchestratorRouter.forwardToNode]
  cases (post.forwarded relay req req).result with
  | ok value => exact Delivery.tryCall_success answers _ value
  | error e => exact Delivery.tryCall_error answers _ _

include foreign in
theorem ChainPost.decides (post : ChainPost) :
    ChainDecides req.method req.params (post.executions relay req)
        (MadrpcClient.tryCall (post.exchange relay req)) ∧
      (post.executions relay req).length ≤ 3 * (relay.config.maxRetries + 1) := by
  obtain ⟨forwarded, few⟩ := @ChainPost.forwarded_decides relay req foreign post
  have unheard (silent : post.delivery.answers = false) :=
    Delivery.tryCall_unanswered silent
      (OrchestratorRouter.handleRequest relay.builtin (post.forwarded relay req) req)
  unfold ChainPost.executions
  cases arrives : post.delivery.arrives with
  | false =>
      refine ⟨.silent (List.forall_mem_nil _) (unheard ?_), Nat.zero_le _⟩
      cases delivery : post.delivery <;> simp_all [Delivery.arrives, Delivery.answers]
  | true =>
      rw [if_pos rfl, List.length_map]
      refine ⟨?_, few⟩
      cases answers : post.delivery.answers with
      | true =>
          rw [ChainPost.tryCall_answered foreign post answers]
          refine (forwarded.map _ ?_).label (Execution.mk post.delivery)
            (fun node => and_iff_right answers) fun _ => rfl
          rintro _ ⟨err, rfl⟩
          exact ⟨_, rfl⟩
      | false =>
          refine .silent (fun execution member heard => ?_) (unheard answers)
          obtain ⟨node, -, rfl⟩ := List.mem_map.mp member
          exact absurd (answers.symm.trans heard.1) Bool.false_ne_true

end

section

variable {relay : Relay} {retry : MadrpcClient.RetryConfig} {req : JsonRpcRequest}
  {posts : Nat → ChainPost} (foreign : req.method ∉ "_register" :: NodeRouter.handlers)
  (some' : 0 < retry.maxAttempts.toNat)

end

def counting (value : UInt64) : NodePost where
  server := .node (.withConfig .default .initial) 0 7
  node := rfl
  procedures := { Procedures.idle with callRpc := fun _ _ => .ok (.number (.posInt value)) }
  delivery := .answered
  requestId := 1

end MadRpc
