import MadRpc.Server.ConversionPaths

set_option autoImplicit false

namespace MadRpc

namespace JsObject

def keys : JsObject → List PropertyKey
  | .ordinary properties => PropertyKey.inOrder (properties.map Prod.fst)
  | .exotic (.ok keys) _ => keys
  | .array _ | .exotic (.error _) _ => []

def get : JsObject → PropertyKey → Except String (JsValue Nat)
  | .ordinary properties => getOwn properties
  | .exotic _ get => get
  | .array _ => fun _ => .ok .undefined

def readsBefore (object : JsObject) (before : List PropertyKey) :
    List (Except MadrpcError (JsValue Nat)) :=
  before.filterMap (memberRead object.get)

theorem elementReads_error {elements : List JsProperty} {index : Nat} {err : MadrpcError}
    (member : .error err ∈ elementReads elements index) :
    ∃ message, err = .javaScriptExecution message := by
  induction elements generalizing index with
  | nil => cases member
  | cons element rest ih =>
      rcases List.mem_cons.mp member with here | later
      · cases read : element.read with
        | ok value => simp [elementRead, read, Except.mapError] at here
        | error text =>
            simp only [elementRead, read, Except.mapError, Except.error.injEq] at here
            exact ⟨_, here⟩
      · exact ih later

theorem memberRead_error {get : PropertyKey → Except String (JsValue Nat)} {key : PropertyKey}
    {err : MadrpcError} (read : memberRead get key = some (.error err)) :
    (∃ message, err = .javaScriptExecution message) ∨
      ∃ units, key = .string (.loneSurrogates units) ∧
        err = .invalidRequest "String conversion error: FromUtf16Error(())" := by
  have named (name : String) (there : key.toStdString = some (.ok name)) :
      ∃ message, err = .javaScriptExecution message := by
    rw [memberRead, there] at read
    cases got : get key with
    | ok value => simp [got, Except.mapError, Except.bind] at read
    | error text =>
        simp only [got, Except.mapError, Except.bind, Option.map_some, Option.some.injEq,
          Except.error.injEq] at read
        exact ⟨_, read.symm⟩
  rcases key with (text | units) | position | id
  · exact .inl (named _ rfl)
  · cases read
    exact .inr ⟨units, rfl, rfl⟩
  · exact .inl (named _ rfl)
  · cases read

theorem reads_cases (object : JsObject) :
    object.reads = object.readsBefore object.keys ∨
      object.keys = [] ∧
        ∀ err, .error err ∈ object.reads → ∃ message, err = .javaScriptExecution message := by
  rcases object with elements | properties | ⟨text | keys, get⟩
  · exact .inr ⟨rfl, fun err => elementReads_error⟩
  · exact .inl rfl
  · refine .inr ⟨rfl, fun err member => ?_⟩
    cases List.mem_singleton.mp member
    exact ⟨_, rfl⟩
  · exact .inl rfl

theorem reads_error {object : JsObject} {err : MadrpcError} (member : .error err ∈ object.reads) :
    (∃ message, err = .javaScriptExecution message) ∨ ∃ message, err = .invalidRequest message := by
  rcases object.reads_cases with keyed | ⟨-, others⟩
  · rw [keyed] at member
    obtain ⟨key, -, read⟩ := List.mem_filterMap.mp member
    exact (memberRead_error read).imp id fun ⟨_, _, same⟩ => ⟨_, same⟩
  · exact .inl (others err member)

theorem reads_invalidRequest {object : JsObject} {message : String}
    {before after : List (Except MadrpcError (JsValue Nat))}
    (split : object.reads = before ++ .error (.invalidRequest message) :: after) :
    ∃ earlier units later, object.keys = earlier ++ .string (.loneSurrogates units) :: later ∧
      object.readsBefore earlier = before := by
  rcases object.reads_cases with keyed | ⟨-, others⟩
  · obtain ⟨first, rest, keys, earlier, ended⟩ :=
      List.filterMap_eq_append_iff.mp (keyed.symm.trans split)
    obtain ⟨skipped, key, later, rfl, unread, read, -⟩ := List.filterMap_eq_cons_iff.mp ended
    rcases memberRead_error read with ⟨text, same⟩ | ⟨units, rfl, -⟩
    · cases same
    · refine ⟨first ++ skipped, units, later, keys.trans (List.append_assoc _ _ _).symm, ?_⟩
      rw [readsBefore, List.filterMap_append, earlier, List.filterMap_eq_nil_iff.mpr unread,
        List.append_nil]
  · obtain ⟨text, same⟩ := others (.invalidRequest message) (by simp [split])
    cases same

theorem reads_of_key {object : JsObject} {earlier later : List PropertyKey} {units : List UInt16}
    (split : object.keys = earlier ++ .string (.loneSurrogates units) :: later) :
    ∃ after, object.reads = object.readsBefore earlier ++
      .error (.invalidRequest "String conversion error: FromUtf16Error(())") :: after := by
  rcases object.reads_cases with keyed | ⟨none, -⟩
  · rw [keyed, split, readsBefore, List.filterMap_append]
    exact ⟨_, rfl⟩
  · rw [none] at split
    cases earlier <;> cases split

end JsObject

/-- A value that the conversion turns away as it comes to it. -/
inductive TurnedAway (boa : Boa) (heap : JsHeap) : JsValue Nat → Prop where
  | number (bits : UInt64) (notInt : boa.asI32 bits = none)
      (infinite : Binary64.isFinite bits = false) : TurnedAway boa heap (.number bits)
  | string (units : List UInt16) : TurnedAway boa heap (.string (.loneSurrogates units))
  | key (address : Nat) (earlier later : List PropertyKey) (units : List UInt16)
      (split : (heap.objects address).keys = earlier ++ .string (.loneSurrogates units) :: later)
      (clean : ∀ read ∈ (heap.objects address).readsBefore earlier,
        (resultTraversal boa heap).CleanRead read) : TurnedAway boa heap (.object address)

variable {boa : Boa} {heap : JsHeap}

theorem turnedAway_iff (value : JsValue Nat) :
    TurnedAway boa heap value ↔
      ∃ message, (resultTraversal boa heap).Fails value (.invalidRequest message) := by
  constructor
  · rintro (⟨bits, notInt, infinite⟩ | units | ⟨address, earlier, later, units, split, clean⟩)
    · have rejected : (resultTraversal boa heap).reads (.number bits) =
          [.error (.invalidRequest "Invalid float")] :=
        congrArg (fun error => (Option.toList error).map Except.error)
          (if_pos ⟨Option.isNone_iff_eq_none.mpr notInt, infinite⟩)
      exact ⟨_, [], [], rejected, nofun⟩
    · exact ⟨_, [], [], rfl, nofun⟩
    · obtain ⟨after, reads⟩ := JsObject.reads_of_key split
      exact ⟨_, _, after, reads, clean⟩
  · rintro ⟨message, before, after, split, clean⟩
    have listed : .error (.invalidRequest message) ∈ (resultTraversal boa heap).reads value := by
      simp [split]
    cases value with
    | undefined | null | bool _ | other => cases listed
    | number bits =>
        obtain ⟨err, rejected, -⟩ := List.mem_map.mp listed
        rw [Option.mem_toList, JsValue.unrepresentable] at rejected
        split at rejected
        next here => exact .number bits (Option.isNone_iff_eq_none.mp here.1) here.2
        next => cases rejected
    | string text =>
        rcases text with text | units
        · cases listed
        · exact .string units
    | object address =>
        obtain ⟨earlier, units, later, keys, same⟩ := JsObject.reads_invalidRequest split
        exact .key address earlier later units keys (same ▸ clean)

def Unrepresentable (boa : Boa) (heap : JsHeap) (value : JsValue Nat) : Prop :=
  ∃ last, Relation.ReflTransGen (resultTraversal boa heap).Visits value last ∧
    TurnedAway boa heap last

theorem conversion_error_kind {depth : Nat} {value : JsValue Nat} {err : MadrpcError}
    (returned : (jsValueToJson boa heap depth value).run = some (.error err)) :
    (∃ message, err = .javaScriptExecution message) ∨ ∃ message, err = .invalidRequest message := by
  rw [jsValueToJson_visit] at returned
  obtain ⟨last, -, before, after, split, -⟩ := Traversal.exists_fails_of_error returned
  have listed : .error err ∈ (resultTraversal boa heap).reads last := by simp [split]
  cases last with
  | object address => exact JsObject.reads_error listed
  | undefined | null | bool _ | other => cases listed
  | number bits =>
      obtain ⟨other, rejected, same⟩ := List.mem_map.mp listed
      rw [Option.mem_toList, JsValue.unrepresentable] at rejected
      split at rejected
      next =>
        cases rejected
        cases same
        exact .inr ⟨_, rfl⟩
      next => cases rejected
  | string text =>
      rcases text with text | units
      · cases listed
      · cases List.mem_singleton.mp listed
        exact .inr ⟨_, rfl⟩

theorem conversion_rejects {value : JsValue Nat}
    (unrepresentable : Unrepresentable boa heap value) :
    ∃ depth message,
      (jsValueToJson boa heap depth value).run = some (.error (.invalidRequest message)) := by
  obtain ⟨last, reached, turnedAway⟩ := unrepresentable
  obtain ⟨message, fails⟩ := (turnedAway_iff last).mp turnedAway
  obtain ⟨depth, returned⟩ := Traversal.error_of_fails reached fails
  exact ⟨depth, message, (jsValueToJson_visit boa heap depth value).trans returned⟩

theorem unrepresentable_of_error {depth : Nat} {value : JsValue Nat} {message : String}
    (returned :
      (jsValueToJson boa heap depth value).run = some (.error (.invalidRequest message))) :
    Unrepresentable boa heap value := by
  rw [jsValueToJson_visit] at returned
  obtain ⟨last, reached, fails⟩ := Traversal.exists_fails_of_error returned
  exact ⟨last, reached, (turnedAway_iff last).mpr ⟨message, fails⟩⟩

end MadRpc
