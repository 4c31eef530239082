import MadRpc.Server.Conversions
import MadRpc.Shared.Traversal

set_option autoImplicit false

namespace MadRpc

namespace JsObject

def elementRead (index : Nat) (element : JsProperty) : Except MadrpcError (JsValue Nat) :=
  element.read.mapError fun err => .javaScriptExecution
    ("Failed to get array element " ++ toString index ++ ": " ++ err)

def elementReads : List JsProperty → Nat → List (Except MadrpcError (JsValue Nat))
  | [], _ => []
  | element :: rest, index => elementRead index element :: elementReads rest (index + 1)

def memberRead (get : PropertyKey → Except String (JsValue Nat)) (key : PropertyKey) :
    Option (Except MadrpcError (JsValue Nat)) :=
  key.toStdString.map fun name => name.bind fun name =>
    (get key).mapError fun err => .javaScriptExecution
      ("Failed to get property '" ++ name ++ "': " ++ err)

def names (keys : List PropertyKey) : List String :=
  keys.filterMap fun key => key.toStdString.bind Except.toOption

def reads : JsObject → List (Except MadrpcError (JsValue Nat))
  | .array elements => elementReads elements 0
  | .ordinary properties =>
      (PropertyKey.inOrder (properties.map Prod.fst)).filterMap (memberRead (getOwn properties))
  | .exotic (.ok keys) get => keys.filterMap (memberRead get)
  | .exotic (.error err) _ =>
      [.error (.javaScriptExecution ("Failed to get object keys: " ++ err))]

def membersOf (keys : List PropertyKey) (values : List Value) : Value :=
  .object (OrderedMap.insertAll ((names keys).zip values) [])

def build : JsObject → List Value → Value
  | .array _, values => .array values
  | .ordinary properties, values =>
      membersOf (PropertyKey.inOrder (properties.map Prod.fst)) values
  | .exotic (.ok keys) _, values => membersOf keys values
  | .exotic (.error _) _, _ => .null

section

variable (convert : JsValue Nat → Converted Value)

theorem elementsToJson_walk (elements : List JsProperty) (index : Nat) :
    (elementsToJson convert elements index).run =
      Traversal.walk (fun value => (convert value).run) (elementReads elements index) := by
  induction elements generalizing index with
  | nil => rfl
  | cons element rest ih =>
      rw [elementsToJson, elementReads]
      change (Converted.lift (elementRead index element) >>= _).run = _
      cases elementRead index element with
      | error err => rfl
      | ok value =>
          rw [Traversal.walk, ← ih]
          change ((convert value >>= _) : Converted _).run = _
          rw [ExceptT.run_bind]
          rcases (convert value).run with _ | _ | first
          · rfl
          · rfl
          · change ((elementsToJson convert rest (index + 1) >>= _) : Converted _).run = _
            rw [ExceptT.run_bind]
            rcases (elementsToJson convert rest (index + 1)).run with _ | _ | _ <;> rfl

theorem membersToJson_walk (get : PropertyKey → Except String (JsValue Nat))
    (keys : List PropertyKey) (result : List (String × Value)) :
    (membersToJson convert get keys result).run =
      (Traversal.walk (fun value => (convert value).run) (keys.filterMap (memberRead get))).map
        (Except.map fun values => OrderedMap.insertAll ((names keys).zip values) result) := by
  induction keys generalizing result with
  | nil => rfl
  | cons key rest ih =>
      rw [membersToJson]
      cases text : key.toStdString with
      | none =>
          have skipped : memberRead get key = none := by rw [memberRead, text]; rfl
          have unnamed : names (key :: rest) = names rest :=
            List.filterMap_cons_none (by rw [text]; rfl)
          rw [List.filterMap_cons_none skipped, unnamed]
          exact ih result
      | some name =>
          rcases name with err | name
          · have failed : memberRead get key = some (.error err) := by rw [memberRead, text]; rfl
            rw [List.filterMap_cons_some failed]
            rfl
          · have named : names (key :: rest) = name :: names rest :=
              List.filterMap_cons_some (by rw [text]; rfl)
            have read : memberRead get key = some ((get key).mapError fun err =>
                .javaScriptExecution ("Failed to get property '" ++ name ++ "': " ++ err)) := by
              rw [memberRead, text]
              rfl
            rw [List.filterMap_cons_some read, named]
            change (Converted.lift ((get key).mapError _) >>= _).run = _
            cases get key with
            | error err => rfl
            | ok value =>
                change ((convert value >>= _) : Converted _).run =
                  Option.map _ (Traversal.walk _ (.ok value :: rest.filterMap (memberRead get)))
                rw [ExceptT.run_bind, Traversal.walk]
                rcases (convert value).run with _ | _ | member
                · rfl
                · rfl
                · refine (ih (OrderedMap.insert name member result)).trans ?_
                  rcases Traversal.walk _ (rest.filterMap (memberRead get)) with _ | _ | _ <;> rfl

theorem objectToJson_walk (object : JsObject) :
    (objectToJson convert object).run =
      (Traversal.walk (fun value => (convert value).run) object.reads).map
        (Except.map object.build) := by
  rcases object with elements | properties | ⟨err | keys, get⟩
  · rw [objectToJson, reads, ← elementsToJson_walk, ExceptT.run_map]
    rfl
  · rw [objectToJson, ExceptT.run_map, membersToJson_walk, reads]
    rcases Traversal.walk _ _ with _ | _ | _ <;> rfl
  · rfl
  · rw [objectToJson, ExceptT.run_map, membersToJson_walk, reads]
    rcases Traversal.walk _ _ with _ | _ | _ <;> rfl

end

end JsObject

namespace JsValue

def unrepresentable (boa : Boa) : JsValue Nat → Option MadrpcError
  | .number bits =>
      if (boa.asI32 bits).isNone ∧ Binary64.isFinite bits = false then
        some (.invalidRequest "Invalid float")
      else none
  | .string (.loneSurrogates _) =>
      some (.invalidRequest "String conversion error: FromUtf16Error(())")
  | _ => none

def leafToJson (boa : Boa) : JsValue Nat → Value
  | .bool value => .bool value
  | .number bits =>
      match boa.asI32 bits with
      | some int => .number (.ofInt32 int)
      | none => .number (.float bits)
  | .string (.text text) => .string text
  | _ => .null

end JsValue

def resultTraversal (boa : Boa) (heap : JsHeap) : Traversal (JsValue Nat) Value MadrpcError where
  reads value :=
    match value with
    | .object address => (heap.objects address).reads
    | leaf => (leaf.unrepresentable boa).toList.map .error
  build value values :=
    match value with
    | .object address => (heap.objects address).build values
    | leaf => leaf.leafToJson boa

theorem jsValueToJson_visit (boa : Boa) (heap : JsHeap) (depth : Nat) (value : JsValue Nat) :
    (jsValueToJson boa heap depth value).run = (resultTraversal boa heap).visit depth value := by
  induction depth generalizing value with
  | zero => rfl
  | succ depth ih =>
      cases value with
      | undefined | null | bool _ | other => rfl
      | number bits =>
          rw [jsValueToJson, Traversal.visit]
          simp only [resultTraversal, JsValue.unrepresentable, JsValue.leafToJson,
            JsValue.isUndefined, JsValue.isNull, JsValue.asBoolean, JsValue.asI32,
            JsValue.asNumber, Number.fromF64]
          cases int : boa.asI32 bits with
          | some value => simp [int, Traversal.walk, Except.map]
          | none =>
            cases finite : Binary64.isFinite bits <;> simp [int, Traversal.walk, Except.map]
      | string text => cases text <;> rfl
      | object address =>
          have below : (fun value => (jsValueToJson boa heap depth value).run) =
              (resultTraversal boa heap).visit depth := funext ih
          rw [Traversal.visit, ← below]
          exact JsObject.objectToJson_walk _ (heap.objects address)

end MadRpc
