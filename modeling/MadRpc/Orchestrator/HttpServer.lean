import MadRpc.Common.Auth
import MadRpc.Common.RateLimit
import MadRpc.Orchestrator.HttpRouter

set_option autoImplicit false

namespace MadRpc

structure Handled where
  response : HttpResponse
  routed : Option JsonRpcRequest

def unauthorizedResponse : HttpResponse :=
  ⟨⟨401, "Unauthorized"⟩, .collected (.ok
    (.errorResponse .null ⟨-401, "Unauthorized: Invalid or missing API key", none⟩))⟩

def rateLimitedResponse (retryAfter : RateLimit.Duration) : HttpResponse :=
  -- Whole seconds, the rest cut off.
  let retryAfterSecs := toString (retryAfter.num / retryAfter.den)
  ⟨⟨429, "Too Many Requests"⟩, .collected (.ok
    (.errorResponse .null ⟨-429, "Too Many Requests: Rate limit exceeded",
      some (.object [("retry_after", .string retryAfterSecs)])⟩))⟩

section Headers

-- What `to_str` makes of the bytes of a header.
variable (toStr : ByteArray → Option String)

def providedKey (headers : HeaderMap) : String := ((headers.get "x-api-key").bind toStr).getD ""

def authorized (authConfig : AuthConfig) (headers : HeaderMap) : Bool :=
  !authConfig.requiresAuth || authConfig.validateApiKey (providedKey toStr headers)

/-- Limit and key come first; a request that passes both goes on to `handle`. -/
def guarded (authConfig : AuthConfig) (rateLimitResult : RateLimit.RateLimitResult)
    (headers : HeaderMap) (handle : Handled) : Handled :=
  match rateLimitResult with
  | .rateLimited retryAfter => ⟨rateLimitedResponse retryAfter, none⟩
  | .allowed =>
      if !authorized toStr authConfig headers then ⟨unauthorizedResponse, none⟩ else handle

end Headers

namespace OrchestratorHttpServer

structure JsonRpcPost where
  headers : HeaderMap
  size : Nat
  decoded : Except String JsonRpcRequest

variable (toStr : ByteArray → Option String)

def JsonRpcPost.toHttpRequest (post : JsonRpcPost) : HttpRequest where
  contentType := (post.headers.get "content-type").map fun value => (toStr value).getD ""
  size := post.size
  decoded := post.decoded

def acceptsContentType (request : HttpRequest) : Bool :=
  request.contentType.all fun contentType =>
    decide ("application/json".toList <:+: contentType.toList)

/-- The call that `handle_jsonrpc` takes from a request and gives to the router. -/
def routed (request : HttpRequest) : Option JsonRpcRequest :=
  if acceptsContentType request then (HttpTransport.parseJsonrpc request).toOption else none

def handleJsonrpc (authConfig : AuthConfig) (rateLimitResult : RateLimit.RateLimitResult)
    (handleRequest : JsonRpcRequest → JsonRpcResponse) (post : JsonRpcPost) : Handled :=
  guarded toStr authConfig rateLimitResult post.headers
    ⟨handleAdmitted handleRequest (post.toHttpRequest toStr), routed (post.toHttpRequest toStr)⟩

end OrchestratorHttpServer

end MadRpc
