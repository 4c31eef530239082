import MadRpc.Server.Context

set_option autoImplicit false

namespace MadRpc

variable {Object : Type}

def registeredNames (script : List (List (JsValue Object))) : List JsString :=
  script.filterMap fun args => args[0]?.bind JsValue.asString

/-- What reads as `undefined` and runs no getter. -/
def ReadsUndefined : Option (Property Object) → Prop
  | none | some (.data .undefined _) | some (.accessor none _) => True
  | _ => False

def RpcCall.notRegistered (method : String) : RpcCall Object where
  ran := []
  result := some (.error (.invalidRequest ("Method '" ++ method ++ "' is not registered")))

theorem lookup_methods (names : List String) (method : String → Property Object)
    (name : JsString) :
    (names.map fun own => (JsString.text own, method own)).lookup name =
      match name with
      | .text text => if text ∈ names then some (method text) else none
      | .loneSurrogates _ => none := by
  induction names with
  | nil => cases name <;> simp
  | cons own rest ih =>
      rw [List.map_cons, List.lookup_cons, ih]
      cases name with
      | text text =>
          by_cases same : text = own
          · simp [same]
          · have other : JsString.text text ≠ .text own := by simpa using same
            simp [beq_false_of_ne other, same]
      | loneSurrogates units => rfl

variable (engine : JsEngine Object)

theorem inherited_objectPrototype (name : JsString) :
    engine.inherited engine.objectPrototype name =
      if name = .text "__proto__" then
        some (.accessor (some engine.protoGetter) (some engine.protoSetter))
      else
        match name with
        | .text text =>
            if text ∈ objectPrototypeMethods then
              some (.data (.object (engine.builtin text)) true)
            else none
        | .loneSurrogates _ => none := by
  rw [JsEngine.inherited, engine.chain_objectPrototype, objectPrototypeProperties,
    List.findSome?_singleton, List.lookup_cons, lookup_methods]
  by_cases proto : name = .text "__proto__"
  · simp [proto]
  · rw [beq_false_of_ne proto, if_neg proto]

theorem readsUndefined_objectPrototype (method : String) :
    ReadsUndefined (engine.inherited engine.objectPrototype (.text method)) ↔
      method ≠ "__proto__" ∧ method ∉ objectPrototypeMethods := by
  rw [inherited_objectPrototype]
  by_cases proto : method = "__proto__"
  · simp [proto, ReadsUndefined]
  · by_cases known : method ∈ objectPrototypeMethods <;> simp [proto, known, ReadsUndefined]

variable [DecidableEq Object]

namespace Registry

theorem set_cases {name : JsString} {func : Object} {registry after : Registry Object}
    (written : registry.set engine name func = .ok after) :
    after = { registry with own := registry.own.insert name func } ∨
      (∃ get setter, engine.inherited registry.prototype name = some (.accessor get (some setter)) ∧
        after = if setter = engine.protoSetter then { registry with prototype := func }
          else registry) := by
  unfold set at written
  split at written
  next =>
    cases written
    exact .inl rfl
  next =>
    split at written
    next =>
      cases written
      exact .inl rfl
    next =>
      cases written
      exact .inl rfl
    next => cases written
    next => cases written
    next get setter found =>
      refine .inr ⟨get, setter, found, ?_⟩
      split at written
      next proto =>
        cases written
        exact (if_pos proto).symm
      next other =>
        cases ran : engine.setter setter func with
        | error err =>
            rw [ran] at written
            cases written
        | ok =>
            rw [ran] at written
            cases written
            exact (if_neg other).symm

theorem set_own {name other : JsString} {func : Object} {registry after : Registry Object}
    (written : registry.set engine name func = .ok after) (member : other ∈ after.own) :
    other = name ∨ other ∈ registry.own := by
  obtain rfl | ⟨get, setter, found, rfl⟩ := set_cases engine written
  · exact AList.mem_insert _ |>.mp member
  · refine .inr ?_
    split at member <;> exact member

theorem register_set {args : List (JsValue Object)} {registry after : Registry Object}
    (registered : registry.register engine args = .ok after) :
    ∃ name func, args[0]?.bind JsValue.asString = some name ∧
      registry.set engine name func = .ok after := by
  unfold register at registered
  split at registered
  next => cases registered
  next name first =>
    split at registered
    next => cases registered
    next =>
      split at registered
      next => cases registered
      next func _ =>
        split at registered
        next => cases registered
        next =>
          refine ⟨name, func, first, ?_⟩
          cases written : registry.set engine name func with
          | error err =>
              rw [written] at registered
              cases registered
          | ok stored =>
              rw [written] at registered
              cases registered
              rfl

theorem registerAll_cons {args : List (JsValue Object)} {rest : List (List (JsValue Object))}
    {registry after : Registry Object}
    (ran : registry.registerAll engine (args :: rest) = .ok after) :
    ∃ name func next, registeredNames (args :: rest) = name :: registeredNames rest ∧
      registry.set engine name func = .ok next ∧ next.registerAll engine rest = .ok after := by
  cases one : registry.register engine args with
  | error err =>
      rw [registerAll, one] at ran
      cases ran
  | ok next =>
      rw [registerAll, one] at ran
      obtain ⟨name, func, first, written⟩ := register_set engine one
      exact ⟨name, func, next, List.filterMap_cons_some first, written, ran⟩

theorem registerAll_own (script : List (List (JsValue Object))) {other : JsString}
    {registry after : Registry Object} (ran : registry.registerAll engine script = .ok after)
    (member : other ∈ after.own) : other ∈ registeredNames script ∨ other ∈ registry.own := by
  induction script generalizing registry with
  | nil =>
      cases ran
      exact .inr member
  | cons args rest ih =>
      obtain ⟨name, func, next, names, written, others⟩ := registerAll_cons engine ran
      rw [names]
      obtain named | before := ih others
      · exact .inl (List.mem_cons_of_mem _ named)
      · obtain rfl | old := set_own engine written before
        · exact .inl List.mem_cons_self
        · exact .inr old

end Registry

namespace MadrpcContext

theorem fromSource_registry {script : List (List (JsValue Object))}
    {context : MadrpcContext Object} (loaded : fromSource engine script = .ok context) :
    (Registry.default engine).registerAll engine script = .ok context.registry := by
  unfold fromSource at loaded
  split at loaded
  next registry ran =>
    cases loaded
    exact ran
  next => cases loaded

theorem fromSource_own {script : List (List (JsValue Object))} {context : MadrpcContext Object}
    (loaded : fromSource engine script = .ok context) {name : JsString}
    (never : name ∉ registeredNames script) : context.registry.own.lookup name = none := by
  refine AList.lookup_eq_none.mpr fun member => ?_
  have ran := fromSource_registry engine loaded
  obtain named | old := Registry.registerAll_own engine script ran member
  · exact never named
  · exact absurd old (AList.notMem_empty name)

theorem message_differs {message : String} (first : message.toList.head? ≠ some 'M')
    (method : String) : message ≠ "Method '" ++ method ++ "' is not registered" := by
  rintro rfl
  simp [String.toList_append] at first

theorem conversion_error_differs (err : ToJsError) (method : String) :
    err.toMadrpcError ≠ .invalidRequest ("Method '" ++ method ++ "' is not registered") := by
  cases err with
  | numberOutOfRange =>
      intro same
      exact message_differs (by simp) method (MadrpcError.invalidRequest.inj same)
  | push index err => nofun
  | setProperty key err => nofun

theorem lookup_error_differs (method err : String) :
    "Method '" ++ method ++ "' lookup error: " ++ err ≠
      "Method '" ++ method ++ "' is not registered" := by
  intro same
  have texts := congrArg String.toList same
  simp [String.toList_append] at texts

theorem callRegistered_iff_read (finish : JsValue Object → Except MadrpcError Value)
    (method : String) (args : Value) (context : MadrpcContext Object) :
    callRegistered engine finish method args context = .notRegistered method ↔
      context.registry.get engine (.text method) = { ran := [], value := .ok .undefined } := by
  unfold callRegistered RpcCall.notRegistered
  dsimp only
  rcases context.registry.get engine (.text method) with ⟨ran, value⟩
  dsimp only
  split
  next err =>
    constructor
    · intro same
      simp only [RpcCall.mk.injEq, Option.some.injEq, Except.error.injEq,
        MadrpcError.invalidRequest.injEq] at same
      exact absurd same.2 (lookup_error_differs method err)
    · nofun
  next => simp
  next value defined =>
    have other : ¬({ ran := ran, value := .ok value } : Read Object) =
        { ran := [], value := .ok .undefined } :=
      fun same => defined (Except.ok.inj (congrArg Read.value same))
    refine iff_of_false ?_ other
    split
    next =>
      intro same
      simp only [RpcCall.mk.injEq, Option.some.injEq, Except.error.injEq,
        MadrpcError.invalidRequest.injEq] at same
      exact message_differs (by simp) method same.2
    next func _ =>
      split
      next err failed =>
        intro same
        simp only [RpcCall.mk.injEq, Option.some.injEq, Except.error.injEq] at same
        exact conversion_error_differs err method same.2
      next => split <;> simp

theorem get_iff_inherited {registry : Registry Object} {name : JsString}
    (absent : registry.own.lookup name = none) :
    registry.get engine name = { ran := [], value := .ok .undefined } ↔
      ReadsUndefined (engine.inherited registry.prototype name) := by
  unfold Registry.get
  split
  next func own =>
    rw [own] at absent
    cases absent
  next =>
    split
    next missing => simp [missing, ReadsUndefined]
    next missing => simp [missing, ReadsUndefined]
    next value _ found =>
      rw [found]
      cases value <;> simp [ReadsUndefined]
    next getter _ found => simp [found, ReadsUndefined]

/-- A name that the script does not register is turned away exactly if it reads as `undefined`
on the prototype that the script leaves to the registry. -/
theorem unregistered_rejected_iff {script : List (List (JsValue Object))}
    {context : MadrpcContext Object} (loaded : fromSource engine script = .ok context)
    {method : String} (never : .text method ∉ registeredNames script) (args : Value) :
    (callRpc engine method args context = .notRegistered method ↔
      ReadsUndefined (engine.inherited context.registry.prototype (.text method))) ∧
    (callRpcAsync engine method args context = .notRegistered method ↔
      ReadsUndefined (engine.inherited context.registry.prototype (.text method))) := by
  have read := get_iff_inherited engine (fromSource_own engine loaded never)
  exact ⟨(callRegistered_iff_read engine _ method args context).trans read,
    (callRegistered_iff_read engine _ method args context).trans read⟩

theorem set_plain {name : JsString} {func : Object} {registry after : Registry Object}
    (plain : name ≠ .text "__proto__") (before : registry.prototype = engine.objectPrototype)
    (written : registry.set engine name func = .ok after) :
    after = { registry with own := registry.own.insert name func } := by
  obtain same | ⟨get, setter, found, -⟩ := Registry.set_cases engine written
  · exact same
  · rw [before, inherited_objectPrototype, if_neg plain] at found
    split at found
    next => split at found <;> cases found
    next => cases found

theorem registerAll_prototype (script : List (List (JsValue Object)))
    {registry after : Registry Object} (plain : .text "__proto__" ∉ registeredNames script)
    (before : registry.prototype = engine.objectPrototype)
    (ran : registry.registerAll engine script = .ok after) :
    after.prototype = engine.objectPrototype := by
  induction script generalizing registry with
  | nil =>
      cases ran
      exact before
  | cons args rest ih =>
      obtain ⟨name, func, next, names, written, others⟩ := Registry.registerAll_cons engine ran
      rw [names, List.mem_cons, not_or] at plain
      obtain rfl := set_plain engine (Ne.symm plain.1) before written
      refine ih plain.2 ?_ others
      exact before

theorem registerAll_registered (script : List (List (JsValue Object)))
    {registry after : Registry Object} (plain : .text "__proto__" ∉ registeredNames script)
    (before : registry.prototype = engine.objectPrototype)
    (ran : registry.registerAll engine script = .ok after) {other : JsString}
    (registered : other ∈ registeredNames script ∨ other ∈ registry.own) :
    other ∈ after.own := by
  induction script generalizing registry with
  | nil =>
      cases ran
      exact registered.resolve_left List.not_mem_nil
  | cons args rest ih =>
      obtain ⟨name, func, next, names, written, others⟩ := Registry.registerAll_cons engine ran
      rw [names, List.mem_cons, not_or] at plain
      rw [names, List.mem_cons] at registered
      obtain rfl := set_plain engine (Ne.symm plain.1) before written
      refine ih plain.2 ?_ others ?_
      · exact before
      · rcases registered with (rfl | later) | old
        · exact .inr ((AList.mem_insert _).mpr (.inl rfl))
        · exact .inl later
        · exact .inr ((AList.mem_insert _).mpr (.inr old))

/-- Without `__proto__` among the registered names, the names of `%Object.prototype%` are the
ones that are callable without being registered. -/
theorem plain_rejected_iff {script : List (List (JsValue Object))}
    {context : MadrpcContext Object} (loaded : fromSource engine script = .ok context)
    (plain : .text "__proto__" ∉ registeredNames script) {method : String}
    (never : .text method ∉ registeredNames script) (args : Value) :
    callRpc engine method args context = .notRegistered method ↔
      method ≠ "__proto__" ∧ method ∉ objectPrototypeMethods := by
  have ran := fromSource_registry engine loaded
  have prototype := registerAll_prototype engine script plain rfl ran
  have read := get_iff_inherited engine (fromSource_own engine loaded never)
  rw [callRpc, callRegistered_iff_read, read, prototype]
  exact readsUndefined_objectPrototype engine method

namespace Greeter

inductive Own where
  | objectPrototype
  | builtin (name : String)
  | protoGetter
  | protoSetter
  | greet
  deriving DecidableEq, Repr

def boa : JsEngine Own where
  chain _ := [objectPrototypeProperties .builtin .protoGetter .protoSetter]
  callable object := object ≠ .objectPrototype
  objectPrototype := .objectPrototype
  builtin := .builtin
  protoGetter := .protoGetter
  protoSetter := .protoSetter
  chain_objectPrototype := rfl
  getter _ := .ok .undefined
  setter _ _ := .ok ()
  notWritable _ := "TypeError: cannot set non-writable property"
  notCallable := "TypeError: not a callable function"
  jsonToJs _ := .ok .null
  call object _ :=
    -- `Object.prototype.toString`, with `this` undefined.
    if object = .builtin "toString" then .ok (.string (.text "[object Undefined]"))
    else .ok (.string (.text "hello"))
  promise _ := none
  runJobs := .ok ()
  jsToJson value :=
    match value with
    | .string (.text text) => .ok (.string text)
    | _ => .ok .null
  debug _ := ""

def script : List (List (JsValue Own)) := [[.string (.text "greet"), .object .greet]]

def context : MadrpcContext Own where
  registry := { own := AList.insert (.text "greet") .greet ∅, prototype := .objectPrototype }

theorem missing_rejected :
    callRpc boa "missing" .null context = .notRegistered "missing" :=
  (unregistered_rejected_iff boa (show fromSource boa script = .ok context from rfl)
    (by decide) .null).1.mpr trivial

theorem toString_called :
    fromSource boa script = .ok context ∧ .text "toString" ∉ registeredNames script ∧
      callRpc boa "toString" .null context =
        { ran := [.builtin "toString"], result := some (.ok (.string "[object Undefined]")) } ∧
      callRpc boa "toString" .null context ≠ .notRegistered "toString" := by
  refine ⟨rfl, by decide, rfl, ?_⟩
  intro rejected
  exact absurd (congrArg RpcCall.ran rejected) (by decide)

end Greeter

end MadrpcContext

end MadRpc
