import MadRpc.Metrics.Totals
import MadRpc.Server.Context

set_option autoImplicit false

namespace MadRpc

structure ResourceLimits where
  -- In milliseconds, as the text of the error gives it.
  executionTimeout : Nat

namespace Node

/-- The closure that `call_rpc` hands to a blocking thread. -/
def executionTask {Object : Type} [DecidableEq Object] (engine : JsEngine Object)
    (script : List (List (JsValue Object))) (method : String) (params : Value) :
    Option (Except MadrpcError Value) :=
  match MadrpcContext.fromSource engine script with
  | .error err => some (.error err)
  | .ok context => (context.callRpcAsync engine method params).result

inductive Elapsed where
  | elapsed

/-- What the wait for the task gives: the time limit, an error of the join, or its result. -/
abbrev Awaited := Except Elapsed (Except String (Except MadrpcError Value))

def joined (limits : ResourceLimits) (awaited : Awaited) :
    Except MadrpcError (Except MadrpcError Value) := do
  let task ← awaited.mapError fun _ => .javaScriptExecution
    ("JavaScript execution exceeded time limit of " ++ toString limits.executionTimeout ++ "ms")
  task.mapError fun err => .javaScriptExecution ("Task join error: " ++ err)

structure Called where
  result : Except MadrpcError Value
  records : List (String × Bool)

def callRpc (limits : ResourceLimits) (handle : Except String Unit) (awaited : Awaited)
    (method : String) : Called :=
  match handle with
  | .error err => ⟨.error (.javaScriptExecution ("No tokio runtime: " ++ err)), []⟩
  | .ok () =>
      match joined limits awaited with
      -- The question marks leave before the metrics are recorded.
      | .error err => ⟨.error err, []⟩
      | .ok (.ok result) => ⟨.ok result, [(method, true)]⟩
      | .ok (.error err) => ⟨.error err, [(method, false)]⟩

def Finished (awaited : Awaited) : Prop := ∃ result, awaited = .ok (.ok result)

theorem callRpc_cases (limits : ResourceLimits) (awaited : Awaited) (method : String) :
    (∃ result, awaited = .ok (.ok result) ∧
      callRpc limits (.ok ()) awaited method = ⟨result, [(method, result.isOk)]⟩) ∨
    (¬ Finished awaited ∧ ∃ message, callRpc limits (.ok ()) awaited method =
      ⟨.error (.javaScriptExecution message), []⟩) := by
  rcases awaited with timeLimit | err | result
  · exact .inr ⟨nofun, _, rfl⟩
  · exact .inr ⟨nofun, _, rfl⟩
  · refine .inl ⟨result, rfl, ?_⟩
    cases result <;> rfl

end Node

end MadRpc
