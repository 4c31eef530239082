import MadRpc.Common.JsonRpc

set_option autoImplicit false

namespace MadRpc

/-- What `serde_json` does between a tree and its text. -/
structure SerdeJson (Bytes : Type) where
  toVec : Value → Bytes
  -- The tree as the text spells it: a member written twice is there twice.
  fromSlice : Bytes → Except String Value
  -- The text of the error for a tree that is no value of the type asked for.
  mismatch : Value → String

namespace SerdeJson

variable {Bytes : Type} (serde : SerdeJson Bytes)

def Inverse (tree : Value) : Prop := serde.fromSlice (serde.toVec tree) = .ok tree

-- `from_slice` at a type whose derived `Deserialize` reads a tree so.
def decode {α : Type} (deserialize : Value → Option α) (bytes : Bytes) : Except String α :=
  match serde.fromSlice bytes with
  | .error message => .error message
  | .ok tree =>
      match deserialize tree with
      | some value => .ok value
      | none => .error (serde.mismatch tree)

theorem decode_toVec {α : Type} (deserialize : Value → Option α) (tree : Value) (value : α)
    (inverse : serde.Inverse tree) (read : deserialize tree = some value) :
    serde.decode deserialize (serde.toVec tree) = .ok value := by
  unfold decode
  rw [inverse]
  simp only [read]

end SerdeJson

namespace Number

def ofInt32 (value : Int32) : Number :=
  if 0 ≤ value.toInt then .posInt (UInt64.ofNat value.toInt.toNat) else .negInt value.toInt64

def toInt32? : Number → Option Int32
  | .posInt value =>
      if value.toNat < 2147483648 then some (Int32.ofInt value.toNat) else none
  | .negInt value =>
      if -2147483648 ≤ value.toInt ∧ value.toInt < 2147483648 then some (Int32.ofInt value.toInt)
      else none
  -- A double is not taken for an integer, not even a whole one.
  | .float _ => none

theorem toInt32_ofInt32 (value : Int32) : (ofInt32 value).toInt32? = some value := by
  have low := value.le_toInt
  have high := value.toInt_lt
  unfold ofInt32
  split
  next nonneg =>
    have small : value.toInt.toNat < UInt64.size := by
      simp only [UInt64.size]
      omega
    rw [toInt32?, UInt64.toNat_ofNat_of_lt' small, if_pos (by omega), Int.toNat_of_nonneg nonneg,
      Int32.ofInt_toInt]
  next negative =>
    rw [toInt32?, Int32.toInt_toInt64, if_pos ⟨low, high⟩, Int32.ofInt_toInt]

end Number

namespace Value

def string? : Value → Option String
  | .string text => some text
  | _ => none

def int32? : Value → Option Int32
  | .number value => value.toInt32?
  | _ => none

-- A member that is there twice is an error, an unknown one is skipped.
def member (name : String) (members : List (String × Value)) : Option (Option Value) :=
  match members.filter fun entry => entry.1 == name with
  | [] => some none
  | [entry] => some (some entry.2)
  | _ :: _ :: _ => none

def optional {α : Type} (decode : Value → Option α) : Option Value → Option (Option α)
  | none | some .null => some none
  | some value => (decode value).map some

end Value

namespace JsonRpcError

-- `None` is written as null.
def serialize (error : JsonRpcError) : Value :=
  .object [("code", .number (.ofInt32 error.code)), ("message", .string error.message),
    ("data", error.data.getD .null)]

def ofMembers (code message data : Option Value) : Option JsonRpcError := do
  let code ← (← code).int32?
  let message ← (← message).string?
  let data ← Value.optional some data
  return ⟨code, message, data⟩

def deserialize : Value → Option JsonRpcError
  | .object members => do
      ofMembers (← Value.member "code" members) (← Value.member "message" members)
        (← Value.member "data" members)
  -- A struct may also come as the array of its members.
  | .array [code, message, data] => ofMembers (some code) (some message) (some data)
  | _ => none

end JsonRpcError

namespace JsonRpcResponse

def serialize (response : JsonRpcResponse) : Value :=
  .object [("jsonrpc", .string response.jsonrpc), ("result", response.result.getD .null),
    ("error", (response.error.map JsonRpcError.serialize).getD .null), ("id", response.id)]

def ofMembers (jsonrpc result error id : Option Value) : Option JsonRpcResponse := do
  let jsonrpc ← (← jsonrpc).string?
  let result ← Value.optional some result
  let error ← Value.optional JsonRpcError.deserialize error
  let id ← id
  return ⟨jsonrpc, result, error, id⟩

def deserialize : Value → Option JsonRpcResponse
  | .object members => do
      ofMembers (← Value.member "jsonrpc" members) (← Value.member "result" members)
        (← Value.member "error" members) (← Value.member "id" members)
  | .array [jsonrpc, result, error, id] =>
      ofMembers (some jsonrpc) (some result) (some error) (some id)
  | _ => none

end JsonRpcResponse

namespace JsonRpcRequest

def serialize (request : JsonRpcRequest) : Value :=
  .object [("jsonrpc", .string request.jsonrpc), ("method", .string request.method),
    ("params", request.params), ("id", request.id)]

-- None of the members is optional, and those that are trees may be any tree.
def ofMembers (jsonrpc method params id : Option Value) : Option JsonRpcRequest := do
  let jsonrpc ← (← jsonrpc).string?
  let method ← (← method).string?
  let params ← params
  let id ← id
  return ⟨jsonrpc, method, params, id⟩

def deserialize : Value → Option JsonRpcRequest
  | .object members => do
      ofMembers (← Value.member "jsonrpc" members) (← Value.member "method" members)
        (← Value.member "params" members) (← Value.member "id" members)
  | .array [jsonrpc, method, params, id] =>
      ofMembers (some jsonrpc) (some method) (some params) (some id)
  | _ => none

end JsonRpcRequest

theorem Value.optional_getD (value : Option Value) :
    Value.optional some (some (value.getD .null)) = some (value.bind Value.present) := by
  match value with
  | none | some .null => rfl
  | some (.bool _) | some (.number _) | some (.string _) | some (.array _) | some (.object _) => rfl

theorem JsonRpcError.deserialize_serialize (error : JsonRpcError) :
    deserialize error.serialize = some error.received := by
  have code := Number.toInt32_ofInt32 error.code
  simp only [serialize, deserialize, ofMembers, Value.member, Value.int32?, Value.string?,
    Value.optional_getD, code, received, List.filter, Option.bind_eq_bind,
    Option.bind_some, Option.pure_def, String.reduceBEq]

theorem JsonRpcRequest.deserialize_serialize (request : JsonRpcRequest) :
    deserialize request.serialize = some request := by
  simp only [serialize, deserialize, ofMembers, Value.member, Value.string?, List.filter,
    Option.bind_eq_bind, Option.bind_some, Option.pure_def, String.reduceBEq]

theorem JsonRpcResponse.optional_error (error : Option JsonRpcError) :
    Value.optional JsonRpcError.deserialize
        (some ((error.map JsonRpcError.serialize).getD .null)) =
      some (error.map JsonRpcError.received) := by
  cases error with
  | none => rfl
  | some error => exact congrArg (Option.map some) error.deserialize_serialize

theorem JsonRpcResponse.deserialize_serialize (response : JsonRpcResponse) :
    deserialize response.serialize = some response.received := by
  simp only [serialize, deserialize, ofMembers, Value.member, Value.string?,
    Value.optional_getD, optional_error, received, List.filter, Option.bind_eq_bind,
    Option.bind_some, Option.pure_def, String.reduceBEq]

end MadRpc
