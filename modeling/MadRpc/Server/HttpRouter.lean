import MadRpc.Common.Error
import MadRpc.Common.JsonRpc

set_option autoImplicit false

namespace MadRpc

namespace NodeRouter

structure BuiltinMethods where
  health : Value
  metrics : Except MadrpcError Value
  info : Except MadrpcError Value

def handlers : List String := ["_health", "_metrics", "_info"]

def reportError (id : Value) : Except MadrpcError Value → JsonRpcResponse
  | .ok report => .success id report
  | .error e => .errorResponse id (.internalError e.toString)

def callError : MadrpcError → JsonRpcError
  | .invalidRequest _ => .methodNotFound
  | .javaScriptExecution msg => .serverError msg
  | _ => .methodNotFound

def callResponse (id : Value) : Except MadrpcError Value → JsonRpcResponse
  | .ok result => .success id result
  | .error e => .errorResponse id (callError e)

def handleRequest (builtin : BuiltinMethods) (callRpc : String → Value → Except MadrpcError Value)
    (req : JsonRpcRequest) : Except JsonRpcError JsonRpcResponse :=
  if req.method = "_health" then .ok (.success req.id builtin.health)
  else if req.method = "_metrics" then .ok (reportError req.id builtin.metrics)
  else if req.method = "_info" then .ok (reportError req.id builtin.info)
  else .ok (callResponse req.id (callRpc req.method req.params))

theorem handleRequest_forwarded (builtin : BuiltinMethods)
    (callRpc : String → Value → Except MadrpcError Value) (req : JsonRpcRequest)
    (foreign : req.method ∉ handlers) :
    handleRequest builtin callRpc req =
      .ok (callResponse req.id (callRpc req.method req.params)) := by
  simp only [handlers, List.mem_cons, List.not_mem_nil, or_false, not_or] at foreign
  rw [handleRequest, if_neg foreign.1, if_neg foreign.2.1, if_neg foreign.2.2]

end NodeRouter

end MadRpc
