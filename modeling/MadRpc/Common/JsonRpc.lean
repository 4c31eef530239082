set_option autoImplicit false

namespace MadRpc

inductive Number where
  | posInt (value : UInt64)
  | negInt (value : Int64)
  -- The bits of a finite double.
  | float (bits : UInt64)
  deriving DecidableEq, Repr

inductive Value where
  | null
  | bool (value : Bool)
  | number (value : Number)
  | string (value : String)
  | array (elements : List Value)
  | object (members : List (String × Value))

def Value.present : Value → Option Value
  | .null => none
  | value => some value

structure JsonRpcRequest where
  jsonrpc : String
  method : String
  params : Value
  id : Value

structure JsonRpcError where
  code : Int32
  message : String
  data : Option Value

structure JsonRpcResponse where
  jsonrpc : String
  result : Option Value
  error : Option JsonRpcError
  id : Value

def PARSE_ERROR : Int32 := -32700
def INVALID_REQUEST : Int32 := -32600
def METHOD_NOT_FOUND : Int32 := -32601
def INVALID_PARAMS : Int32 := -32602
def INTERNAL_ERROR : Int32 := -32603
def REQUEST_TOO_LARGE : Int32 := -32001
def NODE_REGISTRATION_ERROR : Int32 := -32002

namespace JsonRpcError

def parseError : JsonRpcError := ⟨PARSE_ERROR, "Parse error", none⟩

def invalidRequest : JsonRpcError := ⟨INVALID_REQUEST, "Invalid Request", none⟩

def methodNotFound : JsonRpcError := ⟨METHOD_NOT_FOUND, "Method not found", none⟩

def invalidParams (msg : String) : JsonRpcError := ⟨INVALID_PARAMS, msg, none⟩

def internalError (msg : String) : JsonRpcError := ⟨INTERNAL_ERROR, msg, none⟩

def serverError (msg : String) : JsonRpcError := ⟨-32000, msg, none⟩

def requestTooLarge (limit : Nat) : JsonRpcError :=
  ⟨REQUEST_TOO_LARGE, "Request body too large (max " ++ toString limit ++ " bytes)", none⟩

def nodeRegistrationError (msg : String) : JsonRpcError := ⟨NODE_REGISTRATION_ERROR, msg, none⟩

def received (error : JsonRpcError) : JsonRpcError :=
  { error with data := error.data.bind Value.present }

end JsonRpcError

namespace JsonRpcResponse

def success (id result : Value) : JsonRpcResponse := ⟨"2.0", some result, none, id⟩

-- The source's `error`, a field name here. -/
def errorResponse (id : Value) (error : JsonRpcError) : JsonRpcResponse :=
  ⟨"2.0", none, some error, id⟩

/-- What a faithful encoding is decoded to: an optional member that is null is absent. -/
def received (response : JsonRpcResponse) : JsonRpcResponse :=
  { response with
    result := response.result.bind Value.present
    error := response.error.map JsonRpcError.received }

end JsonRpcResponse

end MadRpc
