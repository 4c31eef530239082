import MadRpc.Common.Error
import MadRpc.Common.JsonRpc

set_option autoImplicit false

namespace MadRpc

def MAX_PAYLOAD_SIZE : Nat := 10 * 1024 * 1024

/-- A request as it reaches a server: the text of its `Content-Type`, the length of its body
and what `serde_json` makes of it. -/
structure HttpRequest where
  contentType : Option String
  size : Nat
  decoded : Except String JsonRpcRequest

def HttpTransport.parseJsonrpc (request : HttpRequest) : Except MadrpcError JsonRpcRequest :=
  if MAX_PAYLOAD_SIZE < request.size then .error (.payloadTooLarge request.size MAX_PAYLOAD_SIZE)
  else
    match request.decoded with
    | .ok req => .ok req
    | .error message => .error (.jsonSerialization message)

end MadRpc
