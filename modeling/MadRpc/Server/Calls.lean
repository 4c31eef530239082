import MadRpc.Client.Delivery
import MadRpc.Common.BuiltinWire
import MadRpc.Orchestrator.HttpRouter
import MadRpc.Orchestrator.Report
import MadRpc.Server.HttpRouter

set_option autoImplicit false

namespace MadRpc

def ServerType.debug : ServerType → String
  | node => "Node"
  | orchestrator => "Orchestrator"

inductive Server where
  | node (registry : MetricsRegistry) (activeConnections uptimeMs : UInt64)
  | orchestrator (registry : MetricsRegistry) (activeConnections uptimeMs : UInt64)
      (loadBalancer : LoadBalancer) (order : List String)

structure Procedures where
  callRpc : String → Value → Except MadrpcError Value
  forward : JsonRpcRequest → Orchestrator.Forwarded
  handleRegister : JsonRpcRequest → JsonRpcResponse
  debug : JsonRpcError → String

def Procedures.idle : Procedures where
  callRpc _ _ := .ok .null
  forward _ := ⟨.ok .null, []⟩
  handleRegister req := .success req.id .null
  debug _ := "JsonRpcError"

namespace Server

def serverType : Server → ServerType
  | node .. => .node
  | orchestrator .. => .orchestrator

def getMetrics : Server → MetricsSnapshot
  | node registry activeConnections uptimeMs =>
      registry.snapshot activeConnections uptimeMs false
  | orchestrator registry activeConnections uptimeMs loadBalancer order =>
      Orchestrator.getMetrics order registry activeConnections uptimeMs loadBalancer

def getInfo : Server → InfoResponse
  | node _ _ uptimeMs => .node (.new uptimeMs)
  | orchestrator _ _ uptimeMs loadBalancer order =>
      Orchestrator.getInfo order uptimeMs loadBalancer

def handleRequest (procedures : Procedures) (server : Server) (req : JsonRpcRequest) :
    JsonRpcResponse :=
  match server with
  | node .. =>
      match NodeRouter.handleRequest ⟨HealthResponse.healthy.serialize,
          .ok server.getMetrics.serialize, .ok server.getInfo.serialize⟩ procedures.callRpc req with
      | .ok response => response
      | .error error => .errorResponse .null (.internalError (procedures.debug error))
  | orchestrator .. =>
      OrchestratorRouter.handleRequest
        ⟨fun req => .success req.id server.getMetrics.serialize,
          fun req => .success req.id server.getInfo.serialize, procedures.handleRegister⟩
        procedures.forward req

theorem handleRequest_metrics (procedures : Procedures) (server : Server)
    (req : JsonRpcRequest) (method : req.method = "_metrics") :
    server.handleRequest procedures req = .success req.id server.getMetrics.serialize := by
  cases server <;>
    simp [handleRequest, NodeRouter.handleRequest, NodeRouter.reportError,
      OrchestratorRouter.handleRequest, method]

theorem handleRequest_info (procedures : Procedures) (server : Server)
    (req : JsonRpcRequest) (method : req.method = "_info") :
    server.handleRequest procedures req = .success req.id server.getInfo.serialize := by
  cases server <;>
    simp [handleRequest, NodeRouter.handleRequest, NodeRouter.reportError,
      OrchestratorRouter.handleRequest, method]

theorem handleRequest_health (procedures : Procedures) (server : Server) (req : JsonRpcRequest)
    (node : server.serverType = .node) (method : req.method = "_health") :
    server.handleRequest procedures req = .success req.id HealthResponse.healthy.serialize := by
  cases server with
  | node => simp [handleRequest, NodeRouter.handleRequest, method]
  | orchestrator => cases node

theorem base_serverType (server : Server) : server.getInfo.base.serverType = server.serverType := by
  cases server <;> rfl

theorem nodes_isSome (server : Server) :
    server.getMetrics.nodes.isSome = true ↔ server.serverType = .orchestrator := by
  cases server with
  | node => exact iff_of_false nofun nofun
  | orchestrator => exact iff_of_true rfl rfl

end Server

structure ServerPost where
  server : Server
  delivery : Delivery
  requestId : UInt64

namespace ServerPost

section

variable (procedures : Procedures) (method : String) (posts : Nat → ServerPost)

def exchange (post : ServerPost) : Exchange :=
  post.delivery.exchange (post.server.handleRequest procedures
    (MadrpcClient.request method (.object []) post.requestId))

def called : MadrpcClient.Called :=
  MadrpcClient.call .default fun made => (posts made).exchange procedures method

def answered : Option Server :=
  let last := posts ((called procedures method posts).posts - 1)
  if last.delivery.answers then some last.server else none

end

/-- A call comes to what the server says, or to an error where none says anything. -/
theorem called_cases (procedures : Procedures) (method : String) (posts : Nat → ServerPost) :
    (∃ made, answered procedures method posts = some (posts made).server ∧
      ∀ value, (∀ req : JsonRpcRequest, req.method = method →
          (posts made).server.handleRequest procedures req = .success req.id value) →
        (called procedures method posts).result = .ok value) ∨
    answered procedures method posts = none ∧
      ∃ e, (called procedures method posts).result = .error e := by
  obtain ⟨made, -, called⟩ := MadrpcClient.call_stops .default (by decide)
    fun made => (posts made).exchange procedures method
  simp only [answered, ServerPost.called, called, Nat.add_sub_cancel]
  cases answers : (posts made).delivery.answers with
  | true =>
      refine .inl ⟨made, rfl, fun value tells => ?_⟩
      rw [exchange, tells _ rfl]
      exact Delivery.tryCall_success answers _ value
  | false => exact .inr ⟨rfl, Delivery.tryCall_unanswered answers _⟩

end ServerPost

end MadRpc
