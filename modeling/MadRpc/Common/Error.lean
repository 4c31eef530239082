set_option autoImplicit false

namespace MadRpc

inductive MadrpcError where
  | transport (message : String)
  -- A wrapped `serde_json` or `std::io` error stands as its display text.
  | jsonSerialization (message : String)
  | timeout (milliseconds : UInt64)
  | nodeUnavailable (message : String)
  | javaScriptExecution (message : String)
  | invalidResponse (message : String)
  | allNodesFailed
  | invalidRequest (message : String)
  | io (message : String)
  | connection (message : String)
  | poolTimeout (milliseconds : UInt64)
  | poolExhausted (address : String)
  | payloadTooLarge (size limit : Nat)
  deriving DecidableEq, Repr

namespace MadrpcError

def toString : MadrpcError → String
  | transport message => "Transport error: " ++ message
  | jsonSerialization message => "JSON serialization error: " ++ message
  | timeout milliseconds => "Request timeout after " ++ ToString.toString milliseconds ++ "ms"
  | nodeUnavailable message => "Node unavailable: " ++ message
  | javaScriptExecution message => "JavaScript execution error: " ++ message
  | invalidResponse message => "Invalid response: " ++ message
  | allNodesFailed => "All nodes failed"
  | invalidRequest message => "Invalid request: " ++ message
  | io message => "IO error: " ++ message
  | connection message => "Connection error: " ++ message
  | poolTimeout milliseconds =>
      "Pool acquisition timeout after " ++ ToString.toString milliseconds ++ "ms"
  | poolExhausted address => "Connection pool exhausted for " ++ address
  | payloadTooLarge size limit =>
      "Payload size " ++ ToString.toString size ++ " bytes exceeds maximum allowed size of " ++
        ToString.toString limit ++ " bytes"

def isRetryable : MadrpcError → Bool
  | transport _ | timeout _ | nodeUnavailable _ | io _ | connection _ | poolTimeout _ => true
  | _ => false

def SameVariant (first second : MadrpcError) : Prop := first.ctorIdx = second.ctorIdx

instance (first second : MadrpcError) : Decidable (first.SameVariant second) :=
  inferInstanceAs (Decidable (first.ctorIdx = second.ctorIdx))

end MadrpcError

end MadRpc
