import Mathlib.Data.List.Infix
import MadRpc.Common.HttpTransport
import MadRpc.Orchestrator.Forwarding

set_option autoImplicit false

namespace MadRpc

namespace OrchestratorRouter

structure BuiltinMethods where
  handleMetrics : JsonRpcRequest → JsonRpcResponse
  handleInfo : JsonRpcRequest → JsonRpcResponse
  handleRegister : JsonRpcRequest → JsonRpcResponse

def forwardToNode (forward : JsonRpcRequest → Orchestrator.Forwarded) (req : JsonRpcRequest) :
    JsonRpcResponse :=
  match (forward req).result with
  | .ok result => .success req.id result
  | .error e => .errorResponse req.id (.serverError e.toString)

def handleRequest (builtin : BuiltinMethods) (forward : JsonRpcRequest → Orchestrator.Forwarded)
    (req : JsonRpcRequest) : JsonRpcResponse :=
  if req.method = "_metrics" then builtin.handleMetrics req
  else if req.method = "_info" then builtin.handleInfo req
  else if req.method = "_register" then builtin.handleRegister req
  else forwardToNode forward req

end OrchestratorRouter

namespace OrchestratorHttpServer

def textResponse (code : Nat) (reason : String) : HttpResponse :=
  ⟨⟨code, reason⟩, .collected (.error "expected value at line 1 column 1")⟩

/-- `handle_jsonrpc` from the check of the content type on: what it does with a request that
rate limit and authentication let through. -/
def handleAdmitted (handleRequest : JsonRpcRequest → JsonRpcResponse) (request : HttpRequest) :
    HttpResponse :=
  match request.contentType with
  | some contentType =>
      if "application/json".toList <:+: contentType.toList then answer
      else textResponse 415 "Unsupported Media Type"
  | none => answer
where
  answer : HttpResponse :=
    match HttpTransport.parseJsonrpc request with
    | .ok req => ⟨⟨200, "OK"⟩, .collected (.ok (handleRequest req).received)⟩
    | .error _ => textResponse 400 "Bad Request"

/-- The extractor of the body refuses what is longer than its limit. -/
def serve (bodyLimit : Nat) (handleRequest : JsonRpcRequest → JsonRpcResponse)
    (request : HttpRequest) : HttpResponse :=
  if bodyLimit < request.size then textResponse 413 "Payload Too Large"
  else handleAdmitted handleRequest request

end OrchestratorHttpServer

end MadRpc
