import MadRpc.Server.CallChain
import MadRpc.Server.Context
import MadRpc.Server.ConversionRoundTrip

set_option autoImplicit false

namespace MadRpc

/-- What `call` and `callSync` take from their arguments, once the conversion returns at that
depth. -/
def callArguments (boa : Boa) (heap : JsHeap) (depth : Nat) (args : List (JsValue Nat)) :
    Option (Except String (String × Value)) :=
  match args[0]?.bind JsValue.asString with
  | none => some (.error "First argument must be a string (method name)")
  | some (.loneSurrogates _) => some (.error "Invalid method name: FromUtf16Error(())")
  | some (.text method) =>
      (jsValueToJson boa heap depth (args[1]?.getD .undefined)).run.map fun jsonArgs =>
        (jsonArgs.map (Prod.mk method)).mapError fun e =>
          "Failed to convert args to JSON: " ++ e.toString

section

variable (boa : Boa) (result : Except MadrpcError Value) (heap : JsHeap)

def callSyncResult : Except String (JsValue Nat × JsHeap) := do
  let json ← result.mapError fun e => "RPC call failed: " ++ e.toString
  (jsonToJsValue boa json heap).mapError fun err =>
    "Failed to convert result to JS: " ++ err.toMadrpcError.toString

def rpcCallAsync : Except String Value :=
  result.mapError fun e => "RPC call failed: " ++ e.toString

inductive CallJob where
  | resolves (value : JsValue Nat) (heap : JsHeap)
  | rejects (reason : JsValue Nat)
  -- The job fails, which leaves the promise as it is.
  | fails (message : String)

def callJob : CallJob :=
  match rpcCallAsync result with
  | .ok json =>
      match jsonToJsValue boa json heap with
      | .ok (value, heap) => .resolves value heap
      | .error err => .fails ("Failed to convert result to JS: " ++ err.toMadrpcError.toString)
  | .error e => .rejects (.string (.text e))

end

section

variable {boa : Boa}

end

def Reports (boa : Boa) (heap : JsHeap) (result : Except MadrpcError Value) (message : String) :
    Prop :=
  callJob boa result heap = .rejects (.string (.text message))

section

variable {boa : Boa}

theorem reports (e : MadrpcError) (heap : JsHeap) :
    Reports boa heap (.error e) ("RPC call failed: " ++ e.toString) :=
  rfl

end

def emptyArray : JsHeap := ⟨fun _ => .array [], 1⟩

end MadRpc
