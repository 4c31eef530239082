import MadRpc.Orchestrator.HttpServer

set_option autoImplicit false

namespace MadRpc

namespace NodeHttpServer

def MAX_BODY_SIZE : Nat := 10 * 1024 * 1024

inductive RequestBody where
  | unreadable
  | collected (size : Nat) (decoded : Except String JsonRpcRequest)

structure HyperRequest where
  method : String
  headers : HeaderMap
  body : RequestBody

def toHttpResponse (response : JsonRpcResponse) : HttpResponse :=
  ⟨⟨200, "OK"⟩, .collected (.ok response.received)⟩

def toHttpError (error : JsonRpcError) : HttpResponse :=
  toHttpResponse (.errorResponse .null error)

/-- `handle_request` from the check of the method on. -/
def handleAdmitted (router : JsonRpcRequest → Except String JsonRpcResponse)
    (request : HyperRequest) : Handled :=
  if request.method ≠ "POST" then ⟨toHttpError .invalidRequest, none⟩
  else
    match request.body with
    | .unreadable => ⟨toHttpError (.internalError "Failed to read request body"), none⟩
    | .collected size decoded =>
        if MAX_BODY_SIZE < size then ⟨toHttpError (.requestTooLarge MAX_BODY_SIZE), none⟩
        else
          match HttpTransport.parseJsonrpc ⟨none, size, decoded⟩ with
          | .error _ => ⟨toHttpError .parseError, none⟩
          | .ok req =>
              match router req with
              | .ok response => ⟨toHttpResponse response, some req⟩
              -- An error of the router stands as its debug text.
              | .error message => ⟨toHttpError (.internalError message), some req⟩

def handleRequest (toStr : ByteArray → Option String) (authConfig : AuthConfig)
    (rateLimitResult : RateLimit.RateLimitResult)
    (router : JsonRpcRequest → Except String JsonRpcResponse) (request : HyperRequest) : Handled :=
  guarded toStr authConfig rateLimitResult request.headers (handleAdmitted router request)

end NodeHttpServer

section Admission

variable (toStr : ByteArray → Option String)

theorem guarded_routed (authConfig : AuthConfig) (rateLimitResult : RateLimit.RateLimitResult)
    (headers : HeaderMap) (handle : Handled) (req : JsonRpcRequest)
    (reached : (guarded toStr authConfig rateLimitResult headers handle).routed = some req) :
    authorized toStr authConfig headers = true := by
  unfold guarded at reached
  cases rateLimitResult with
  | rateLimited retryAfter => cases reached
  | allowed =>
      cases admitted : authorized toStr authConfig headers with
      | true => rfl
      | false =>
          rw [admitted] at reached
          cases reached

theorem authorized_iff (key : String) (headers : HeaderMap) :
    authorized toStr (.withApiKey key) headers = true ↔ key = providedKey toStr headers := by
  rw [← constantTimeEq_iff]
  rfl

/-- An absent or undecodable header counts as the empty key, and as that key only. -/
theorem authorized_carries
    (sound : ∀ value text, toStr value = some text → text.toByteArray = value) (key : String)
    (nonempty : key ≠ "") (headers : HeaderMap)
    (admitted : authorized toStr (.withApiKey key) headers = true) :
    headers.get "x-api-key" = some key.toByteArray := by
  rw [authorized_iff, providedKey] at admitted
  cases present : headers.get "x-api-key" with
  | none =>
      rw [present] at admitted
      exact absurd admitted nonempty
  | some value =>
      rw [present, Option.bind_some] at admitted
      cases decoded : toStr value with
      | none =>
          rw [decoded] at admitted
          exact absurd admitted nonempty
      | some text =>
          rw [decoded, Option.getD_some] at admitted
          rw [admitted, sound value text decoded]

end Admission

/-- Only a request with the key among its headers is routed, whatever else it is like. -/
def OnlyWithKey (key : String) (headers : HeaderMap) (routed : Option JsonRpcRequest) : Prop :=
  routed ≠ none → headers.get "x-api-key" = some key.toByteArray

theorem authentication_admission (toStr : ByteArray → Option String)
    (sound : ∀ value text, toStr value = some text → text.toByteArray = value) (key : String) :
    ((∀ rateLimitResult handleRequest post, OnlyWithKey key post.headers
        (OrchestratorHttpServer.handleJsonrpc toStr (.withApiKey key) rateLimitResult
          handleRequest post).routed) ↔ key ≠ "") ∧
      ((∀ rateLimitResult router request, OnlyWithKey key request.headers
        (NodeHttpServer.handleRequest toStr (.withApiKey key) rateLimitResult router
          request).routed) ↔ key ≠ "") := by
  have only (nonempty : key ≠ "") (rateLimitResult : RateLimit.RateLimitResult)
      (headers : HeaderMap) (handle : Handled) :
      OnlyWithKey key headers
        (guarded toStr (.withApiKey key) rateLimitResult headers handle).routed := by
    intro reached
    obtain ⟨req, reached⟩ := Option.ne_none_iff_exists'.mp reached
    exact authorized_carries toStr sound key nonempty headers
      (guarded_routed toStr _ rateLimitResult headers handle req reached)
  let req : JsonRpcRequest := ⟨"2.0", "compute", .null, .null⟩
  constructor
  · constructor
    · rintro always rfl
      have carried := always .allowed (fun req => .success req.id .null) ⟨⟨[]⟩, 58, .ok req⟩
      exact nomatch carried nofun
    · exact fun nonempty rateLimitResult handleRequest post => only nonempty _ _ _
  · constructor
    · rintro always rfl
      have carried := always .allowed (fun req => .ok (.success req.id .null))
        ⟨"POST", ⟨[]⟩, .collected 58 (.ok req)⟩
      exact nomatch carried nofun
    · exact fun nonempty rateLimitResult router request => only nonempty _ _ _

theorem authentication_admission_witness :
    let toStr := fun value : ByteArray =>
      if value.data = "secret".toByteArray.data then some "secret" else none
    ∀ rateLimitResult router request, OnlyWithKey "secret" request.headers
      (NodeHttpServer.handleRequest toStr (.withApiKey "secret") rateLimitResult router
        request).routed := by
  intro toStr
  refine (authentication_admission toStr (fun value text decoded => ?_) "secret").2.mpr (by decide)
  simp only [toStr] at decoded
  split at decoded
  next same =>
    cases decoded
    exact ByteArray.ext same.symm
  next => cases decoded

theorem empty_key_admits :
    let req : JsonRpcRequest := ⟨"2.0", "compute", .null, .null⟩
    let post : OrchestratorHttpServer.JsonRpcPost := ⟨⟨[]⟩, 58, .ok req⟩
    let request : NodeHttpServer.HyperRequest := ⟨"POST", ⟨[]⟩, .collected 58 (.ok req)⟩
    -- Neither request has a header, and both get past a configured key.
    ¬ OnlyWithKey "" post.headers (OrchestratorHttpServer.handleJsonrpc (fun _ => none)
        (.withApiKey "") .allowed (fun req => .success req.id .null) post).routed ∧
      ¬ OnlyWithKey "" request.headers (NodeHttpServer.handleRequest (fun _ => none)
        (.withApiKey "") .allowed (fun req => .ok (.success req.id .null)) request).routed :=
  ⟨fun only => (nomatch only nofun), fun only => (nomatch only nofun)⟩

end MadRpc
