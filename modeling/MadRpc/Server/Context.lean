import MadRpc.Server.Bindings

set_option autoImplicit false

namespace MadRpc

def MAX_PROMISE_WAIT_MS : Nat := 30000
def PROMISE_POLL_INTERVAL_ASYNC_MS : Nat := 10

def ToJsError.toMadrpcError : ToJsError → MadrpcError
  | .numberOutOfRange => .invalidRequest "Number out of range"
  | .push index err =>
      .javaScriptExecution ("Failed to push array element " ++ toString index ++ ": " ++ err)
  | .setProperty key err =>
      .javaScriptExecution ("Failed to set property '" ++ key ++ "': " ++ err)

structure MadrpcContext (Object : Type) where
  registry : Registry Object

/-- The functions that a call ran itself, and its result once it has one. -/
structure RpcCall (Object : Type) where
  ran : List Object
  result : Option (Except MadrpcError Value)

namespace MadrpcContext

variable {Object : Type} [DecidableEq Object] (engine : JsEngine Object)

def fromSource (script : List (List (JsValue Object))) :
    Except MadrpcError (MadrpcContext Object) :=
  match (Registry.default engine).registerAll engine script with
  | .ok registry => .ok { registry := registry }
  | .error err => .error (.javaScriptExecution ("Script evaluation error: " ++ err))

def rejection (reason : JsValue Object) : String :=
  match reason.asString with
  | some (.text text) => text
  | some (.loneSurrogates _) => "Unknown error"
  | none => engine.debug reason

def awaitPromise : List (Nat × PromiseState Object) → Option (Except MadrpcError Value)
  | [] => none
  | (elapsed, state) :: later =>
      if MAX_PROMISE_WAIT_MS ≤ elapsed then
        some (.error (.javaScriptExecution
          ("Promise did not resolve within " ++ toString MAX_PROMISE_WAIT_MS ++ "ms timeout")))
      else
        match state with
        | .pending => awaitPromise later
        | .fulfilled value => some (engine.jsToJson value)
        | .rejected reason =>
            some (.error (.javaScriptExecution ("Promise rejected: " ++ rejection engine reason)))

/-- `finish` takes the result of the function if it is no promise. -/
def callRegistered (finish : JsValue Object → Except MadrpcError Value) (method : String)
    (args : Value) (context : MadrpcContext Object) : RpcCall Object :=
  let read := context.registry.get engine (.text method)
  match read.value with
  | .error err =>
      { ran := read.ran
        result := some (.error (.invalidRequest
          ("Method '" ++ method ++ "' lookup error: " ++ err))) }
  | .ok .undefined =>
      { ran := read.ran
        result := some (.error (.invalidRequest
          ("Method '" ++ method ++ "' is not registered"))) }
  | .ok func =>
      match func.asObject with
      | none =>
          { ran := read.ran
            result := some (.error (.invalidRequest "Registered value is not a function")) }
      | some func =>
          match engine.jsonToJs args with
          | .error err => { ran := read.ran, result := some (.error err.toMadrpcError) }
          | .ok args =>
              if engine.callable func = false then
                { ran := read.ran
                  result := some (.error (.javaScriptExecution
                    ("Function execution error: " ++ engine.notCallable))) }
              else
                { ran := read.ran ++ [func]
                  result :=
                    match engine.call func args with
                    | .error err =>
                        some (.error (.javaScriptExecution ("Function execution error: " ++ err)))
                    | .ok result =>
                        match engine.promise result with
                        | some observed => awaitPromise engine observed
                        | none => some (finish result) }

def callRpc : String → Value → MadrpcContext Object → RpcCall Object :=
  callRegistered engine engine.jsToJson

def callRpcAsync : String → Value → MadrpcContext Object → RpcCall Object :=
  callRegistered engine fun result =>
    match engine.runJobs with
    | .error err => .error (.javaScriptExecution ("Job execution error: " ++ err))
    | .ok () => engine.jsToJson result

end MadrpcContext

end MadRpc
