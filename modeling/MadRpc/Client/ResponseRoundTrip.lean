import MadRpc.Client.Client
import MadRpc.Common.Wire

set_option autoImplicit false

namespace MadRpc

def replyVariant (code : Int32) : String → MadrpcError :=
  if code = PARSE_ERROR ∨ code = INVALID_REQUEST then .invalidResponse
  else if code = METHOD_NOT_FOUND ∨ code = INVALID_PARAMS then .invalidRequest
  else if code = INTERNAL_ERROR ∨ (-32099 ≤ code ∧ code ≤ -32001) then .nodeUnavailable
  else .javaScriptExecution

def replyLabel (code : Int32) : String :=
  if code = PARSE_ERROR then "Parse error: "
  else if code = INVALID_REQUEST then "Invalid request: "
  else if code = METHOD_NOT_FOUND then "Method not found: "
  else if code = INVALID_PARAMS then "Invalid params: "
  else if code = INTERNAL_ERROR then "Internal error: "
  else ""

namespace MadrpcClient

theorem fromJsonRpcError_by_code (error : JsonRpcError) :
    fromJsonRpcError error =
      replyVariant error.code (replyLabel error.code ++ error.message) := by
  obtain ⟨code, message, data⟩ := error
  by_cases parse : code = PARSE_ERROR
  · subst parse
    rfl
  by_cases request : code = INVALID_REQUEST
  · subst request
    rfl
  by_cases method : code = METHOD_NOT_FOUND
  · subst method
    rfl
  by_cases params : code = INVALID_PARAMS
  · subst params
    rfl
  by_cases internal : code = INTERNAL_ERROR
  · subst internal
    rfl
  simp only [fromJsonRpcError, replyVariant, replyLabel, parse, request, method, params, internal,
    if_false, false_or, String.empty_append]
  by_cases server : -32099 ≤ code ∧ code ≤ -32001
  · rw [if_pos server, if_pos server]
  · -- The code of a too large request is inside the range, so its own branch is never taken.
    have small : code ≠ REQUEST_TOO_LARGE := by
      intro large
      subst large
      exact server (by decide)
    rw [if_neg server, if_neg server, if_neg small]

end MadrpcClient

variable {Bytes : Type}

theorem JsonRpcResponse.decode_encode (serde : SerdeJson Bytes) (response : JsonRpcResponse)
    (inverse : serde.Inverse response.serialize) :
    serde.decode deserialize (serde.toVec response.serialize) = .ok response.received :=
  serde.decode_toVec deserialize response.serialize response.received inverse
    response.deserialize_serialize

def receive (serde : SerdeJson Bytes) (response : JsonRpcResponse) : Except MadrpcError Value :=
  MadrpcClient.tryCall (.responded ⟨⟨200, "OK"⟩,
    .collected (serde.decode JsonRpcResponse.deserialize (serde.toVec response.serialize))⟩)

theorem receive_eq (serde : SerdeJson Bytes) (response : JsonRpcResponse)
    (inverse : serde.Inverse response.serialize) :
    receive serde response =
      match response.error with
      | some error => .error (MadrpcClient.fromJsonRpcError error.received)
      | none => .ok ((response.result.bind Value.present).getD .null) := by
  rw [receive, JsonRpcResponse.decode_encode serde response inverse]
  cases failed : response.error with
  | none => simp [MadrpcClient.tryCall, StatusCode.isSuccess, JsonRpcResponse.received, failed]
  | some error =>
      simp [MadrpcClient.tryCall, StatusCode.isSuccess, JsonRpcResponse.received, failed]

theorem Value.present_getD (value : Value) : value.present.getD .null = value := by
  cases value <;> rfl

theorem response_round_trip (serde : SerdeJson Bytes) :
    (∀ id value, serde.Inverse (JsonRpcResponse.success id value).serialize →
      receive serde (.success id value) = .ok value) ∧
    (∀ id error, serde.Inverse (JsonRpcResponse.errorResponse id error).serialize →
      receive serde (.errorResponse id error) =
        .error (replyVariant error.code (replyLabel error.code ++ error.message))) := by
  constructor
  · intro id value inverse
    rw [receive_eq serde _ inverse]
    -- A null result is not told apart from an absent one, and both are read as null.
    exact congrArg Except.ok value.present_getD
  · intro id error inverse
    rw [receive_eq serde _ inverse]
    exact congrArg Except.error (MadrpcClient.fromJsonRpcError_by_code error.received)

def nullReply : JsonRpcResponse := .success (.number (.posInt 1)) .null

def nullReplyText : String :=
  "\x7b\"jsonrpc\":\"2.0\",\"result\":null,\"error\":null,\"id\":1\x7d"

def notFoundReply : JsonRpcResponse := .errorResponse (.number (.posInt 1)) .methodNotFound

def notFoundReplyText : String :=
  "\x7b\"jsonrpc\":\"2.0\",\"result\":null,\"error\":\x7b\"code\":-32601," ++
    "\"message\":\"Method not found\",\"data\":null\x7d,\"id\":1\x7d"

-- The two replies as `serde_json` writes and reads them.
def twoReplies : SerdeJson String where
  toVec
    | .object [_, _, ("error", .null), _] => nullReplyText
    | _ => notFoundReplyText
  fromSlice text :=
    if text = nullReplyText then .ok nullReply.serialize
    else if text = notFoundReplyText then .ok notFoundReply.serialize
    else .error "expected value at line 1 column 1"
  mismatch _ := "invalid type"

theorem response_round_trip_witness :
    receive twoReplies nullReply = .ok .null ∧
      receive twoReplies notFoundReply =
        .error (.invalidRequest "Method not found: Method not found") :=
  ⟨(response_round_trip twoReplies).1 (.number (.posInt 1)) .null (by
      unfold SerdeJson.Inverse
      rfl),
    (response_round_trip twoReplies).2 (.number (.posInt 1)) .methodNotFound (by
      unfold SerdeJson.Inverse
      rfl)⟩

end MadRpc
