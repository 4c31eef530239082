import MadRpc.Common.Wire
import MadRpc.Server.Bindings
import MadRpc.Shared.Binary64
import MadRpc.Shared.OrderedMap
import Mathlib.Data.String.Basic

set_option autoImplicit false

/-!
# Conversions between JSON and JavaScript values

An object is its address in the heap of the engine.
-/

namespace MadRpc

namespace Number

def toF64 : Number → UInt64
  | .posInt value => Binary64.ofUInt64 value
  | .negInt value => Binary64.ofInt64 value
  | .float bits => bits

-- There is always one.
def asF64 (number : Number) : Option UInt64 := some number.toF64

def asI64 : Number → Option Int64
  | .posInt value =>
      if value.toNat < 9223372036854775808 then some value.toInt64 else none
  | .negInt value => some value
  | .float _ => none

def fromF64 (bits : UInt64) : Option Number :=
  if Binary64.isFinite bits then some (.float bits) else none

end Number

inductive PropertyKey where
  | string (name : JsString)
  | index (index : UInt32)
  | symbol (id : Nat)
  deriving DecidableEq, Repr

inductive JsProperty where
  | data (value : JsValue Nat)
  -- What the getter gives; it leaves the heap alone.
  | accessor (result : Except String (JsValue Nat))

def JsProperty.read : JsProperty → Except String (JsValue Nat)
  | .data value => .ok value
  | .accessor result => result

inductive JsObject where
  | array (elements : List JsProperty)
  | ordinary (properties : List (PropertyKey × JsProperty))
  -- A proxy, as its traps answer.
  | exotic (keys : Except String (List PropertyKey))
      (get : PropertyKey → Except String (JsValue Nat))

structure JsHeap where
  objects : Nat → JsObject
  -- The address of the next object.
  next : Nat

structure Boa where
  asI32 : UInt64 → Option Int32
  asIndex : String → Option UInt32
  asIndex_prints : ∀ name index, asIndex name = some index → toString index = name
  typeError : String

namespace JsHeap

def write (address : Nat) (object : JsObject) (heap : JsHeap) : JsHeap :=
  { heap with objects := Function.update heap.objects address object }

def allocate (object : JsObject) (heap : JsHeap) : JsHeap :=
  { heap.write heap.next object with next := heap.next + 1 }

@[simp]
theorem objects_write (address : Nat) (object : JsObject) (heap : JsHeap) :
    (heap.write address object).objects address = object := by
  simp [write]

theorem objects_write_of_ne {address other : Nat} (object : JsObject) (heap : JsHeap)
    (different : other ≠ address) :
    (heap.write address object).objects other = heap.objects other := by
  simp [write, different]

variable (boa : Boa)

def push (array : Nat) (value : JsValue Nat) (heap : JsHeap) : Except String JsHeap :=
  match heap.objects array with
  | .array elements => .ok (heap.write array (.array (elements ++ [.data value])))
  | _ => .error boa.typeError

def defineProperty (key : PropertyKey) (value : JsValue Nat)
    (properties : List (PropertyKey × JsProperty)) : List (PropertyKey × JsProperty) :=
  if key ∈ properties.map Prod.fst then
    properties.map fun entry => if entry.1 = key then (key, .data value) else entry
  else properties ++ [(key, .data value)]

def createDataPropertyOrThrow (object : Nat) (key : PropertyKey) (value : JsValue Nat)
    (heap : JsHeap) : Except String JsHeap :=
  match heap.objects object with
  | .ordinary properties =>
      .ok (heap.write object (.ordinary (defineProperty key value properties)))
  | _ => .error boa.typeError

end JsHeap

namespace PropertyKey

def index? : PropertyKey → Option UInt32
  | .index position => some position
  | _ => none

def isString : PropertyKey → Bool
  | .string _ => true
  | _ => false

def isSymbol : PropertyKey → Bool
  | .symbol _ => true
  | _ => false

/-- Indices come first and in order, then the other names as they were added. -/
def inOrder (keys : List PropertyKey) : List PropertyKey :=
  ((keys.filterMap index?).insertionSort (· ≤ ·)).map .index ++ keys.filter isString ++
    keys.filter isSymbol

end PropertyKey

def getOwn (properties : List (PropertyKey × JsProperty)) (key : PropertyKey) :
    Except String (JsValue Nat) :=
  match properties.lookup key with
  | some property => property.read
  -- A key that the object lists is never looked up among its prototypes.
  | none => .ok .undefined

section

variable (boa : Boa)

def numberToJs (number : Number) : Except ToJsError (JsValue Nat) :=
  match number.asF64 with
  | some bits => .ok (.number bits)
  | none =>
      match number.asI64 with
      | some value => .ok (.number (Binary64.ofInt64 value))
      | none => .error .numberOutOfRange

def propertyKey (name : String) : PropertyKey :=
  match boa.asIndex name with
  | some index => .index index
  | none => .string (.text name)

mutual

def jsonToJsValue : Value → JsHeap → Except ToJsError (JsValue Nat × JsHeap)
  | .null, heap => .ok (.null, heap)
  | .bool value, heap => .ok (.bool value, heap)
  | .number number, heap => (numberToJs number).map fun value => (value, heap)
  | .string text, heap => .ok (.string (.text text), heap)
  | .array elements, heap =>
      (pushElements heap.next elements 0 (heap.allocate (.array []))).map fun filled =>
        (.object heap.next, filled)
  | .object members, heap =>
      (setMembers heap.next members (heap.allocate (.ordinary []))).map fun filled =>
        (.object heap.next, filled)

def pushElements (array : Nat) : List Value → Nat → JsHeap → Except ToJsError JsHeap
  | [], _, heap => .ok heap
  | element :: rest, index, heap => do
      let (value, heap) ← jsonToJsValue element heap
      let heap ← (heap.push boa array value).mapError (.push index)
      pushElements array rest (index + 1) heap

def setMembers (object : Nat) : List (String × Value) → JsHeap → Except ToJsError JsHeap
  | [], heap => .ok heap
  | (key, member) :: rest, heap => do
      let (value, heap) ← jsonToJsValue member heap
      let heap ← (heap.createDataPropertyOrThrow boa object (propertyKey boa key) value).mapError
        (.setProperty key)
      setMembers object rest heap

end

end

namespace JsValue

variable {Object : Type}

def isUndefined : JsValue Object → Bool
  | .undefined => true
  | _ => false

def isNull : JsValue Object → Bool
  | .null => true
  | _ => false

def asBoolean : JsValue Object → Option Bool
  | .bool value => some value
  | _ => none

def asNumber : JsValue Object → Option UInt64
  | .number bits => some bits
  | _ => none

def asI32 (boa : Boa) (value : JsValue Object) : Option Int32 :=
  value.asNumber.bind boa.asI32

end JsValue

def JsString.toStdString : JsString → Except MadrpcError String
  | .text name => .ok name
  | .loneSurrogates _ => .error (.invalidRequest "String conversion error: FromUtf16Error(())")

/-- Without a value, it has not returned at that depth of recursion. -/
abbrev Converted (α : Type) := ExceptT MadrpcError Option α

def Converted.lift {α : Type} (result : Except MadrpcError α) : Converted α :=
  ExceptT.mk (some result)

-- The text of a key; symbols are skipped.
def PropertyKey.toStdString : PropertyKey → Option (Except MadrpcError String)
  | .string name => some name.toStdString
  | .index position => some (.ok (toString position))
  | .symbol _ => none

section

variable (convert : JsValue Nat → Converted Value)

def elementsToJson : List JsProperty → Nat → Converted (List Value)
  | [], _ => pure []
  | element :: rest, index => do
      let value ← Converted.lift <| element.read.mapError fun err => .javaScriptExecution
        ("Failed to get array element " ++ toString index ++ ": " ++ err)
      let value ← convert value
      let values ← elementsToJson rest (index + 1)
      return value :: values

def membersToJson (get : PropertyKey → Except String (JsValue Nat)) :
    List PropertyKey → List (String × Value) → Converted (List (String × Value))
  | [], result => pure result
  | key :: rest, result =>
      match key.toStdString with
      | none => membersToJson get rest result
      | some name => do
          let name ← Converted.lift name
          let value ← Converted.lift <| (get key).mapError fun err => .javaScriptExecution
            ("Failed to get property '" ++ name ++ "': " ++ err)
          let value ← convert value
          membersToJson get rest (OrderedMap.insert name value result)

def objectToJson : JsObject → Converted Value
  | .array elements => .array <$> elementsToJson convert elements 0
  | .ordinary properties =>
      .object <$> membersToJson convert (getOwn properties)
        (PropertyKey.inOrder (properties.map Prod.fst)) []
  | .exotic (.ok keys) get => .object <$> membersToJson convert get keys []
  | .exotic (.error err) _ => throw (.javaScriptExecution ("Failed to get object keys: " ++ err))

end

def jsValueToJson (boa : Boa) (heap : JsHeap) : Nat → JsValue Nat → Converted Value
  | 0, _ => ExceptT.mk none
  | depth + 1, value =>
      if value.isUndefined || value.isNull then pure .null
      else if let some bool := value.asBoolean then pure (.bool bool)
      else if let some int := value.asI32 boa then pure (.number (.ofInt32 int))
      else if let some bits := value.asNumber then
        match Number.fromF64 bits with
        | some number => pure (.number number)
        | none => throw (.invalidRequest "Invalid float")
      else if let some text := value.asString then .string <$> Converted.lift text.toStdString
      else if let some object := value.asObject then
        objectToJson (jsValueToJson boa heap depth) (heap.objects object)
      -- Symbols and big integers.
      else pure .null

def Number.Valid : Number → Prop
  | .posInt _ => True
  | .negInt value => value.toInt < 0
  | .float bits => Binary64.isFinite bits = true

namespace Value

mutual

/-- What holds of every value of `serde_json`. -/
def Valid : Value → Prop
  | .number leaf => leaf.Valid
  | .array elements => ElementsValid elements
  | .object members => OrderedMap.Ordered members ∧ MembersValid members
  | .null | .bool _ | .string _ => True

def ElementsValid : List Value → Prop
  | [] => True
  | element :: rest => element.Valid ∧ ElementsValid rest

def MembersValid : List (String × Value) → Prop
  | [] => True
  | (_, member) :: rest => member.Valid ∧ MembersValid rest

end

variable (change : Number → Number)

mutual

def mapNumbers : Value → Value
  | .null => .null
  | .bool value => .bool value
  | .number leaf => .number (change leaf)
  | .string value => .string value
  | .array elements => .array (mapElements elements)
  | .object members => .object (mapMembers members)

def mapElements : List Value → List Value
  | [] => []
  | element :: rest => element.mapNumbers :: mapElements rest

def mapMembers : List (String × Value) → List (String × Value)
  | [] => []
  | (key, member) :: rest => (key, member.mapNumbers) :: mapMembers rest

end

mutual

def depth : Value → Nat
  | .null | .bool _ | .number _ | .string _ => 1
  | .array elements => elementsDepth elements + 1
  | .object members => membersDepth members + 1

def elementsDepth : List Value → Nat
  | [] => 0
  | element :: rest => max element.depth (elementsDepth rest)

def membersDepth : List (String × Value) → Nat
  | [] => 0
  | (_, member) :: rest => max member.depth (membersDepth rest)

end

end Value

end MadRpc
