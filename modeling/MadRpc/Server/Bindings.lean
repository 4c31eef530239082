import MadRpc.Common.Error
import MadRpc.Common.JsonRpc
import MadRpc.Shared.Table

set_option autoImplicit false

/-!
# The JavaScript bindings

A script is the sequence of its calls of `madrpc.register`, so `madrpc` and `__registry` stay
what the bindings made them. The registry is an ordinary object and is read and written as one.
-/

namespace MadRpc

inductive JsString where
  | text (text : String)
  -- UTF-16 that no Rust string has.
  | loneSurrogates (units : List UInt16)
  deriving DecidableEq, Repr

inductive JsValue (Object : Type) where
  | undefined
  | null
  | bool (value : Bool)
  | number (bits : UInt64)
  | string (value : JsString)
  -- A symbol or a big integer.
  | other
  | object (object : Object)
  deriving DecidableEq, Repr

namespace JsValue

variable {Object : Type}

def asString : JsValue Object → Option JsString
  | .string value => some value
  | _ => none

def asObject : JsValue Object → Option Object
  | .object own => some own
  | _ => none

end JsValue

inductive Property (Object : Type) where
  | data (value : JsValue Object) (writable : Bool)
  | accessor (get set : Option Object)
  deriving DecidableEq, Repr

abbrev Properties (Object : Type) := List (JsString × Property Object)

/-- The methods of `%Object.prototype%`. Its one accessor is `__proto__`. -/
def objectPrototypeMethods : List String :=
  ["constructor", "hasOwnProperty", "propertyIsEnumerable", "toString", "toLocaleString",
    "valueOf", "isPrototypeOf", "__defineGetter__", "__defineSetter__", "__lookupGetter__",
    "__lookupSetter__"]

def objectPrototypeProperties {Object : Type} (builtin : String → Object)
    (protoGetter protoSetter : Object) : Properties Object :=
  (.text "__proto__", .accessor (some protoGetter) (some protoSetter)) ::
    objectPrototypeMethods.map fun name => (.text name, .data (.object (builtin name)) true)

inductive ToJsError where
  | numberOutOfRange
  | push (index : Nat) (err : String)
  | setProperty (key err : String)
  deriving DecidableEq, Repr

inductive PromiseState (Object : Type) where
  | pending
  | fulfilled (value : JsValue Object)
  | rejected (reason : JsValue Object)
  deriving DecidableEq, Repr

structure JsEngine (Object : Type) where
  -- The properties of an object, and then those of its prototypes.
  chain : Object → List (Properties Object)
  callable : Object → Bool
  objectPrototype : Object
  builtin : String → Object
  protoGetter : Object
  protoSetter : Object
  chain_objectPrototype :
    chain objectPrototype = [objectPrototypeProperties builtin protoGetter protoSetter]
  -- The accessors of a class, which leave the registry alone.
  getter : Object → Except String (JsValue Object)
  setter : Object → Object → Except String Unit
  notWritable : JsString → String
  notCallable : String
  jsonToJs : Value → Except ToJsError (JsValue Object)
  call : Object → JsValue Object → Except String (JsValue Object)
  -- What the iterations of the wait for a promise see: the time elapsed and the state.
  promise : JsValue Object → Option (List (Nat × PromiseState Object))
  runJobs : Except String Unit
  jsToJson : JsValue Object → Except MadrpcError Value
  debug : JsValue Object → String

structure Registry (Object : Type) where
  own : AList fun _ : JsString => Object
  prototype : Object

structure Read (Object : Type) where
  ran : List Object
  value : Except String (JsValue Object)

namespace JsEngine

variable {Object : Type} (engine : JsEngine Object)

def inherited (object : Object) (name : JsString) : Option (Property Object) :=
  (engine.chain object).findSome? fun own => own.lookup name

end JsEngine

namespace Registry

variable {Object : Type} [DecidableEq Object] (engine : JsEngine Object)

/-- `JsObject::default`. -/
def default : Registry Object where
  own := ∅
  prototype := engine.objectPrototype

def get (name : JsString) (registry : Registry Object) : Read Object :=
  match registry.own.lookup name with
  | some func => { ran := [], value := .ok (.object func) }
  | none =>
      match engine.inherited registry.prototype name with
      | none | some (.accessor none _) => { ran := [], value := .ok .undefined }
      | some (.data value _) => { ran := [], value := .ok value }
      | some (.accessor (some getter) _) =>
          { ran := [getter]
            value := if getter = engine.protoGetter then .ok (.object registry.prototype)
              else engine.getter getter }

def set (name : JsString) (func : Object) (registry : Registry Object) :
    Except String (Registry Object) :=
  match registry.own.lookup name with
  | some _ => .ok { registry with own := registry.own.insert name func }
  | none =>
      match engine.inherited registry.prototype name with
      | none | some (.data _ true) =>
          .ok { registry with own := registry.own.insert name func }
      | some (.data _ false) | some (.accessor _ none) => .error (engine.notWritable name)
      | some (.accessor _ (some setter)) =>
          if setter = engine.protoSetter then .ok { registry with prototype := func }
          else (engine.setter setter func).map fun () => registry

def register (args : List (JsValue Object)) (registry : Registry Object) :
    Except String (Registry Object) :=
  match args[0]?.bind JsValue.asString with
  | none => .error "First argument must be a string"
  | some name =>
      match args[1]? with
      | none => .error "Second argument required"
      | some value =>
          match value.asObject with
          | none => .error "Second argument must be a function"
          | some func =>
              if engine.callable func = false then .error "Second argument must be a function"
              else (registry.set engine name func).mapError ("Failed to register: " ++ ·)

/-- The script stops at the first call that throws. -/
def registerAll : List (List (JsValue Object)) → Registry Object → Except String (Registry Object)
  | [], registry => .ok registry
  | args :: rest, registry => (registry.register engine args).bind (registerAll rest)

end Registry

end MadRpc
