import MadRpc.Server.ConversionErrors
import MadRpc.Server.Denotation
import MadRpc.Server.HttpRouter
import MadRpc.Server.IntegerEcho
import MadRpc.Server.Node
import MadRpc.Server.OnlyRegistered

set_option autoImplicit false

namespace MadRpc

/-! ## What a call hands to the conversion of its result -/

namespace MadrpcContext

variable {Object : Type} (engine : JsEngine Object)

def settle : List (Nat × PromiseState Object) → Option (Except MadrpcError (JsValue Object))
  | [] => none
  | (elapsed, state) :: later =>
      if MAX_PROMISE_WAIT_MS ≤ elapsed then
        some (.error (.javaScriptExecution
          ("Promise did not resolve within " ++ toString MAX_PROMISE_WAIT_MS ++ "ms timeout")))
      else
        match state with
        | .pending => settle later
        | .fulfilled value => some (.ok value)
        | .rejected reason =>
            some (.error (.javaScriptExecution ("Promise rejected: " ++ rejection engine reason)))

theorem awaitPromise_settle (observed : List (Nat × PromiseState Object)) :
    awaitPromise engine observed = (settle engine observed).map (·.bind engine.jsToJson) := by
  induction observed with
  | nil => rfl
  | cons seen later ih =>
      obtain ⟨elapsed, state⟩ := seen
      unfold awaitPromise settle
      split
      next => rfl
      next =>
        cases state with
        | pending => exact ih
        | fulfilled value => rfl
        | rejected reason => rfl

theorem settle_error {observed : List (Nat × PromiseState Object)} {err : MadrpcError}
    (failed : settle engine observed = some (.error err)) :
    ∃ message, err = .javaScriptExecution message := by
  induction observed with
  | nil => cases failed
  | cons seen later ih =>
      obtain ⟨elapsed, state⟩ := seen
      unfold settle at failed
      split at failed
      next =>
        cases failed
        exact ⟨_, rfl⟩
      next =>
        cases state with
        | pending => exact ih failed
        | fulfilled value => cases failed
        | rejected reason =>
            cases failed
            exact ⟨_, rfl⟩

/-- What the function behind a name makes of its arguments: nothing yet, an error, or a value that
is handed to the conversion. -/
def invoke (func : Object) (args : JsValue Object) :
    Option (Except MadrpcError (JsValue Object)) :=
  if engine.callable func = false then
    some (.error (.javaScriptExecution ("Function execution error: " ++ engine.notCallable)))
  else
    match engine.call func args with
    | .error err => some (.error (.javaScriptExecution ("Function execution error: " ++ err)))
    | .ok result =>
        match engine.promise result with
        | some observed => settle engine observed
        | none => some (engine.runJobs.mapError (fun err =>
            .javaScriptExecution ("Job execution error: " ++ err)) |>.map fun _ => result)

theorem invoke_error {func : Object} {args : JsValue Object} {err : MadrpcError}
    (failed : invoke engine func args = some (.error err)) :
    ∃ message, err = .javaScriptExecution message := by
  unfold invoke at failed
  split at failed
  next =>
    cases failed
    exact ⟨_, rfl⟩
  next =>
    split at failed
    next =>
      cases failed
      exact ⟨_, rfl⟩
    next =>
      split at failed
      next => exact settle_error engine failed
      next =>
        cases jobs : engine.runJobs with
        | error text =>
            rw [jobs] at failed
            cases failed
            exact ⟨_, rfl⟩
        | ok =>
            rw [jobs] at failed
            cases failed

variable [DecidableEq Object]

def Found (context : MadrpcContext Object) (method : String) (func : Object) : Prop :=
  (context.registry.get engine (.text method)).value = .ok (.object func)

theorem registered_found {script : List (List (JsValue Object))}
    {context : MadrpcContext Object} (loaded : fromSource engine script = .ok context)
    (plain : .text "__proto__" ∉ registeredNames script) {method : String}
    (registered : .text method ∈ registeredNames script) :
    ∃ func, context.Found engine method func := by
  have own := registerAll_registered engine script plain rfl (fromSource_registry engine loaded)
    (.inl registered)
  obtain ⟨func, stored⟩ := Option.isSome_iff_exists.mp (AList.lookup_isSome.mpr own)
  exact ⟨func, by rw [Found, Registry.get, stored]⟩

theorem callRpcAsync_found {context : MadrpcContext Object} {method : String} {func : Object}
    (found : context.Found engine method func) {args : Value} {js : JsValue Object}
    (converted : engine.jsonToJs args = .ok js) :
    (context.callRpcAsync engine method args).result =
      (invoke engine func js).map (·.bind engine.jsToJson) := by
  unfold callRpcAsync callRegistered invoke
  dsimp only
  rw [show (context.registry.get engine (.text method)).value = _ from found]
  simp only [JsValue.asObject, converted]
  split
  next => rfl
  next =>
    cases engine.call func js with
    | error err => rfl
    | ok result =>
        dsimp only
        cases engine.promise result with
        | some observed => exact awaitPromise_settle engine observed
        | none => cases engine.runJobs <;> rfl

theorem callRpcAsync_missing {context : MadrpcContext Object} {method : String}
    (missing : ∀ func, ¬ context.Found engine method func) (args : Value) :
    ∃ message, (context.callRpcAsync engine method args).result =
      some (.error (.invalidRequest message)) := by
  unfold Found at missing
  unfold callRpcAsync callRegistered
  dsimp only
  split
  next => exact ⟨_, rfl⟩
  next => exact ⟨_, rfl⟩
  next func _ read =>
    cases object : func.asObject with
    | none => exact ⟨_, rfl⟩
    | some own =>
        cases func with
        | object other => exact absurd read (missing other)
        | undefined | null | bool _ | number _ | string _ | other => cases object

end MadrpcContext

/-! ## The answer of the node -/

/-- The engine converts as the source does, on the heap that its calls find and leave. -/
structure Converts (engine : JsEngine Nat) (boa : Boa) (before after : JsHeap) : Prop where
  arguments : ∀ value, engine.jsonToJs value = (jsonToJsValue boa value before).map Prod.fst
  result : ∀ value depth result, (jsValueToJson boa after depth value).run = some result →
    engine.jsToJson value = result

section

variable (engine : JsEngine Nat) (boa : Boa) (after : JsHeap)

def Hands (context : MadrpcContext Nat) (req : JsonRpcRequest) (value : JsValue Nat) : Prop :=
  ∃ func js, context.Found engine req.method func ∧ engine.jsonToJs req.params = .ok js ∧
    MadrpcContext.invoke engine func js = some (.ok value)

inductive Outcome (script : List (List (JsValue Nat))) (context : MadrpcContext Nat)
    (req : JsonRpcRequest) : Node.Awaited → Prop where
  | timedOut : Outcome script context req (.error .elapsed)
  | joinError (err : String) : Outcome script context req (.ok (.error err))
  | finished (result : Except MadrpcError Value)
      (returned : Node.executionTask engine script req.method req.params = some result)
      -- A conversion that never returns holds the task up.
      (converted : ∀ value, Hands engine context req value →
        ∃ depth result, (jsValueToJson boa after depth value).run = some result) :
      Outcome script context req (.ok (.ok result))

end

namespace NodeRouter

def answer (builtin : BuiltinMethods) (limits : ResourceLimits) (handle : Except String Unit)
    (awaited : Node.Awaited) (req : JsonRpcRequest) : Except JsonRpcError JsonRpcResponse :=
  handleRequest builtin (fun method _ => (Node.callRpc limits handle awaited method).result) req

def NotFound (answer : Except JsonRpcError JsonRpcResponse) : Prop :=
  ∃ response error, answer = .ok response ∧ response.error = some error ∧
    error.code = METHOD_NOT_FOUND

theorem notFound_callResponse (id : Value) (result : Except MadrpcError Value) :
    NotFound (.ok (callResponse id result)) ↔
      ∃ err, result = .error err ∧ ∀ message, err ≠ .javaScriptExecution message := by
  constructor
  · rintro ⟨response, error, same, failed, code⟩
    cases same
    cases result with
    | ok value => cases failed
    | error err =>
        refine ⟨err, rfl, ?_⟩
        rintro message rfl
        cases failed
        exact absurd (show (-32000 : Int32) = METHOD_NOT_FOUND from code) (by decide)
  · rintro ⟨err, rfl, other⟩
    refine ⟨_, callError err, rfl, rfl, ?_⟩
    cases err with
    | javaScriptExecution message => exact absurd rfl (other message)
    | _ => rfl

theorem not_notFound_builtin {builtin : BuiltinMethods}
    {callRpc : String → Value → Except MadrpcError Value} {req : JsonRpcRequest}
    (own : req.method ∈ handlers) : ¬ NotFound (handleRequest builtin callRpc req) := by
  have reported (report : Except MadrpcError Value) :
      ¬ NotFound (.ok (reportError req.id report)) := by
    rintro ⟨response, error, same, failed, code⟩
    cases same
    cases report <;> cases failed
    exact absurd (show INTERNAL_ERROR = METHOD_NOT_FOUND from code) (by decide)
  unfold handleRequest
  split
  next =>
    rintro ⟨response, error, same, failed, -⟩
    cases same
    cases failed
  next health =>
    split
    next => exact reported _
    next metrics =>
      split
      next => exact reported _
      next info => simp [handlers, health, metrics, info] at own

end NodeRouter

section

variable {engine : JsEngine Nat} {boa : Boa} {before after : JsHeap}
  {script : List (List (JsValue Nat))} {context : MadrpcContext Nat} {req : JsonRpcRequest}

theorem Hands.unique {first second : JsValue Nat} (hands : Hands engine context req first)
    (again : Hands engine context req second) : first = second := by
  obtain ⟨func, js, found, converted, invoked⟩ := hands
  obtain ⟨other, js', found', converted', invoked'⟩ := again
  obtain rfl : func = other := by
    have same := (show _ = Except.ok (JsValue.object func) from found).symm.trans found'
    simpa using same
  cases converted.symm.trans converted'
  cases invoked.symm.trans invoked'
  rfl

theorem executionTask_eq (loaded : MadrpcContext.fromSource engine script = .ok context)
    (method : String) (params : Value) :
    Node.executionTask engine script method params =
      (context.callRpcAsync engine method params).result := by
  rw [Node.executionTask, loaded]

theorem Converts.args_ok (converts : Converts engine boa before after) (valid : req.params.Valid) :
    ∃ js, engine.jsonToJs req.params = .ok js := by
  obtain ⟨js, later, converted, -⟩ := @jsonToJsValue_denotes boa req.params valid before
  exact ⟨js, by rw [converts.arguments, converted]; rfl⟩

theorem finished_kind (converts : Converts engine boa before after)
    (loaded : MadrpcContext.fromSource engine script = .ok context) (valid : req.params.Valid)
    {func : Nat} (found : context.Found engine req.method func)
    {result : Except MadrpcError Value}
    (returned : Node.executionTask engine script req.method req.params = some result)
    (converted : ∀ value, Hands engine context req value →
      ∃ depth result, (jsValueToJson boa after depth value).run = some result)
    {err : MadrpcError} (failed : result = .error err) :
    (∃ message, err = .javaScriptExecution message) ∨
      ∃ value, Hands engine context req value ∧ Unrepresentable boa after value := by
  obtain ⟨js, args⟩ := converts.args_ok valid
  rw [executionTask_eq loaded, MadrpcContext.callRpcAsync_found engine found args] at returned
  obtain ⟨invoked, ran, rfl⟩ := Option.map_eq_some_iff.mp returned
  rcases invoked with other | value
  · cases failed
    exact .inl (MadrpcContext.invoke_error engine ran)
  · have hands : Hands engine context req value := ⟨func, js, found, args, ran⟩
    obtain ⟨depth, outcome, run⟩ := converted value hands
    have same : engine.jsToJson value = outcome := converts.result value depth outcome run
    change engine.jsToJson value = .error err at failed
    rw [same] at failed
    rw [failed] at run
    rcases conversion_error_kind run with thrown | ⟨message, rfl⟩
    · exact .inl thrown
    · exact .inr ⟨value, hands, unrepresentable_of_error run⟩

theorem exists_notFound (own : req.method ∉ NodeRouter.handlers)
    (builtin : NodeRouter.BuiltinMethods) (limits : ResourceLimits) {message : String}
    (returned : Node.executionTask engine script req.method req.params =
      some (.error (.invalidRequest message)))
    (converted : ∀ value, Hands engine context req value →
      ∃ depth result, (jsValueToJson boa after depth value).run = some result) :
    ∃ awaited, Outcome engine boa after script context req awaited ∧
      NodeRouter.NotFound (NodeRouter.answer builtin limits (.ok ()) awaited req) := by
  refine ⟨_, .finished _ returned converted, ?_⟩
  rw [NodeRouter.answer, NodeRouter.handleRequest_forwarded _ _ _ own,
    NodeRouter.notFound_callResponse]
  exact ⟨_, rfl, nofun⟩

theorem executionTask_missing (loaded : MadrpcContext.fromSource engine script = .ok context)
    (missing : ∀ func, ¬ context.Found engine req.method func) :
    ∃ message, Node.executionTask engine script req.method req.params =
      some (.error (.invalidRequest message)) := by
  obtain ⟨message, returned⟩ := MadrpcContext.callRpcAsync_missing engine missing req.params
  exact ⟨message, (executionTask_eq loaded _ _).trans returned⟩

theorem executionTask_unrepresentable (converts : Converts engine boa before after)
    (loaded : MadrpcContext.fromSource engine script = .ok context) {value : JsValue Nat}
    (hands : Hands engine context req value) (unrepresentable : Unrepresentable boa after value) :
    ∃ depth message,
      (jsValueToJson boa after depth value).run = some (.error (.invalidRequest message)) ∧
        Node.executionTask engine script req.method req.params =
          some (.error (.invalidRequest message)) := by
  obtain ⟨depth, message, run⟩ := conversion_rejects unrepresentable
  obtain ⟨func, js, found, args, invoked⟩ := hands
  refine ⟨depth, message, run, ?_⟩
  rw [executionTask_eq loaded, MadrpcContext.callRpcAsync_found engine found args, invoked]
  exact congrArg some (converts.result value depth _ run)

theorem not_notFound_outcome (converts : Converts engine boa before after)
    (loaded : MadrpcContext.fromSource engine script = .ok context) (valid : req.params.Valid)
    {func : Nat} (found : context.Found engine req.method func)
    (representable : ∀ value, Hands engine context req value → ¬ Unrepresentable boa after value)
    (builtin : NodeRouter.BuiltinMethods) (limits : ResourceLimits)
    (handle : Except String Unit) {awaited : Node.Awaited}
    (outcome : Outcome engine boa after script context req awaited) :
    ¬ NodeRouter.NotFound (NodeRouter.answer builtin limits handle awaited req) := by
  by_cases own : req.method ∈ NodeRouter.handlers
  · exact NodeRouter.not_notFound_builtin own
  rw [NodeRouter.answer, NodeRouter.handleRequest_forwarded _ _ _ own,
    NodeRouter.notFound_callResponse]
  rintro ⟨err, failed, unlike⟩
  cases handle with
  | error text =>
      cases failed
      exact unlike _ rfl
  | ok =>
      cases outcome with
      | timedOut | joinError text =>
          cases failed
          exact unlike _ rfl
      | finished result returned converted =>
          have ended : result = .error err := by
            rw [← failed]
            cases result <;> rfl
          rcases finished_kind converts loaded valid found returned converted ended with
            ⟨message, thrown⟩ | ⟨value, hands, unrepresentable⟩
          · exact unlike message thrown
          · exact representable value hands unrepresentable

end

/-- A call is never answered with "Method not found" exactly if the name reads as an object and
the conversion of what the call returns comes to no value that it turns away. -/
theorem method_not_found_iff (engine : JsEngine Nat) (boa : Boa) (before after : JsHeap)
    (converts : Converts engine boa before after) (script : List (List (JsValue Nat)))
    (context : MadrpcContext Nat)
    (loaded : MadrpcContext.fromSource engine script = .ok context) (req : JsonRpcRequest)
    (valid : req.params.Valid) (builtin : NodeRouter.BuiltinMethods) (limits : ResourceLimits) :
    ((∀ handle awaited, Outcome engine boa after script context req awaited →
      ¬ NodeRouter.NotFound (NodeRouter.answer builtin limits handle awaited req)) ↔
    req.method ∈ NodeRouter.handlers ∨
      (∃ func, context.Found engine req.method func) ∧
        ∀ value, Hands engine context req value → ¬ Unrepresentable boa after value) ∧
    (.text "__proto__" ∉ registeredNames script → .text req.method ∈ registeredNames script →
      ∃ func, context.Found engine req.method func) := by
  refine ⟨⟨?_, ?_⟩, fun plain registered =>
    MadrpcContext.registered_found engine loaded plain registered⟩
  · intro never
    by_cases own : req.method ∈ NodeRouter.handlers
    · exact .inl own
    refine .inr ⟨?_, fun value hands unrepresentable => ?_⟩
    · by_contra missing
      obtain ⟨message, returned⟩ := executionTask_missing loaded (not_exists.mp missing)
      obtain ⟨awaited, outcome, notFound⟩ := exists_notFound own builtin limits returned
        fun value ⟨func, _, found, _⟩ => absurd ⟨func, found⟩ missing
      exact never _ awaited outcome notFound
    · obtain ⟨depth, message, run, returned⟩ :=
        executionTask_unrepresentable converts loaded hands unrepresentable
      obtain ⟨awaited, outcome, notFound⟩ := exists_notFound own builtin limits returned
        fun again handed => ⟨depth, _, Hands.unique hands handed ▸ run⟩
      exact never _ awaited outcome notFound
  · rintro (own | ⟨⟨func, found⟩, representable⟩) handle awaited outcome
    · exact NodeRouter.not_notFound_builtin own
    · exact not_notFound_outcome converts loaded valid found representable builtin limits handle
        outcome

/-! ## A script that registers one function -/

namespace Computing

def noObjects : JsHeap := ⟨fun _ => .ordinary [], 5⟩

def engine (value : JsValue Nat) : JsEngine Nat where
  chain _ := [objectPrototypeProperties (fun _ => 3) 1 2]
  callable object := object ≠ 0
  objectPrototype := 0
  builtin _ := 3
  protoGetter := 1
  protoSetter := 2
  chain_objectPrototype := rfl
  getter _ := .ok .undefined
  setter _ _ := .ok ()
  notWritable _ := "TypeError: cannot set non-writable property"
  notCallable := "TypeError: not a callable function"
  jsonToJs params := (jsonToJsValue exactBoa params noObjects).map Prod.fst
  call _ _ := .ok value
  promise _ := none
  runJobs := .ok ()
  jsToJson value := ((jsValueToJson exactBoa noObjects 1 value).run).getD (.ok .null)
  debug _ := ""

theorem flat_returns (value : JsValue Nat) :
    ∃ result, (jsValueToJson exactBoa noObjects 1 value).run = some result := by
  rw [jsValueToJson_visit]
  cases value with
  | undefined | null | bool _ | other => exact ⟨_, rfl⟩
  | number bits =>
      change ∃ result, (Traversal.walk ((resultTraversal exactBoa noObjects).visit 0)
        (((JsValue.number bits).unrepresentable exactBoa).toList.map Except.error)).map _ =
          some result
      cases (JsValue.number bits).unrepresentable exactBoa <;> exact ⟨_, rfl⟩
  | string text => cases text <;> exact ⟨_, rfl⟩
  | object address => exact ⟨_, rfl⟩

theorem engine_converts (value : JsValue Nat) :
    Converts (engine value) exactBoa noObjects noObjects where
  arguments _ := rfl
  result value depth result run := by
    obtain ⟨flat, returned⟩ := flat_returns value
    have same : flat = result := by
      rw [jsValueToJson_visit] at returned run
      have first := Traversal.visit_mono (Nat.le_max_left 1 depth) returned
      have second := Traversal.visit_mono (Nat.le_max_right 1 depth) run
      exact Option.some.inj (first.symm.trans second)
    rw [← same]
    exact congrArg (Option.getD · _) returned

def script : List (List (JsValue Nat)) := [[.string (.text "compute"), .object 4]]

def context : MadrpcContext Nat where
  registry := { own := AList.insert (.text "compute") 4 ∅, prototype := 0 }

def request : JsonRpcRequest := ⟨"2.0", "compute", .array [], .number (.posInt 1)⟩

def builtin : NodeRouter.BuiltinMethods := ⟨.null, .ok .null, .ok .null⟩

theorem loaded (value : JsValue Nat) :
    MadrpcContext.fromSource (engine value) script = .ok context := rfl

theorem found (value : JsValue Nat) : context.Found (engine value) "compute" 4 := rfl

theorem hands (value : JsValue Nat) : Hands (engine value) context request value :=
  ⟨4, .object 5, rfl, rfl, rfl⟩

end Computing

theorem method_not_found_iff_witness :
    let value : JsValue Nat := .string (.text "done")
    ((∀ handle awaited, Outcome (Computing.engine value) exactBoa Computing.noObjects
      Computing.script Computing.context Computing.request awaited →
      ¬ NodeRouter.NotFound (NodeRouter.answer Computing.builtin ⟨30000⟩ handle awaited
        Computing.request)) ↔
    Computing.request.method ∈ NodeRouter.handlers ∨
      (∃ func, Computing.context.Found (Computing.engine value) Computing.request.method func) ∧
        ∀ handed, Hands (Computing.engine value) Computing.context Computing.request handed →
          ¬ Unrepresentable exactBoa Computing.noObjects handed) ∧
    ∃ func, Computing.context.Found (Computing.engine value) Computing.request.method func := by
  intro value
  obtain ⟨notFound, found⟩ := method_not_found_iff (Computing.engine value) exactBoa
    Computing.noObjects Computing.noObjects (Computing.engine_converts _) Computing.script
    Computing.context (Computing.loaded _) Computing.request trivial Computing.builtin ⟨30000⟩
  exact ⟨notFound, found (by decide) (by decide)⟩

-- The quiet NaN that `0 / 0` gives.
def quietNaN : UInt64 := 0x7ff8000000000000

/-- A registered function that returns NaN is answered as a missing method. -/
theorem nan_not_found :
    let engine := Computing.engine (.number quietNaN)
    .text "compute" ∈ registeredNames Computing.script ∧
      ∃ awaited, Outcome engine exactBoa Computing.noObjects Computing.script Computing.context
          Computing.request awaited ∧
        NodeRouter.NotFound (NodeRouter.answer Computing.builtin ⟨30000⟩ (.ok ()) awaited
          Computing.request) := by
  intro engine
  have infinite : Binary64.isFinite quietNaN = false := by decide
  have unrepresentable : Unrepresentable exactBoa Computing.noObjects (.number quietNaN) :=
    ⟨_, .refl, .number quietNaN (exactBoa_infinite infinite) infinite⟩
  obtain ⟨depth, message, run⟩ := conversion_rejects unrepresentable
  have returned : Node.executionTask engine Computing.script "compute" (.array []) =
      some (.error (.invalidRequest message)) :=
    congrArg some ((Computing.engine_converts _).result _ _ _ run)
  refine ⟨by decide, _, .finished _ returned fun value handed => ?_, ?_⟩
  · obtain rfl := (Computing.hands (.number quietNaN)).unique handed
    exact ⟨depth, _, run⟩
  · exact ⟨_, _, rfl, rfl, rfl⟩

end MadRpc
