import MadRpc.Common.HttpTransport
import MadRpc.Common.Wire

set_option autoImplicit false

namespace MadRpc

namespace Value

def isStructured : Value → Bool
  | .array _ | .object _ => true
  | _ => false

def isIdentifier : Value → Bool
  | .number _ | .string _ | .null => true
  | _ => false

end Value

/-- The members of a request in a tree that is an object, as they stand there. -/
structure RequestMembers where
  jsonrpc : Option Value
  method : Option Value
  params : Option Value
  id : Option Value

def RequestMembers.read : Value → Option RequestMembers
  | .object members => do
      return ⟨← Value.member "jsonrpc" members, ← Value.member "method" members,
        ← Value.member "params" members, ← Value.member "id" members⟩
  | _ => none

/-- `jsonrpc` is "2.0", `method` a string, `params` structured or omitted, `id` an identifier. -/
def RequestMembers.Documented (members : RequestMembers) : Prop :=
  members.jsonrpc = some (.string "2.0") ∧ (∃ method, members.method = some (.string method)) ∧
    (∀ params ∈ members.params, params.isStructured = true) ∧
    ∃ id ∈ members.id, id.isIdentifier = true

def DocumentedRequest (tree : Value) : Prop :=
  ∃ members, RequestMembers.read tree = some members ∧ members.Documented

def Carries (req : JsonRpcRequest) (tree : Value) : Prop :=
  RequestMembers.read tree =
    some ⟨some (.string req.jsonrpc), some (.string req.method), some req.params, some req.id⟩

theorem Value.string?_eq_some (value : Value) (text : String) :
    value.string? = some text ↔ value = .string text := by
  cases value <;> simp [string?]

theorem ofMembers_eq_some (jsonrpc method params id : Option Value) (req : JsonRpcRequest) :
    JsonRpcRequest.ofMembers jsonrpc method params id = some req ↔
      jsonrpc = some (.string req.jsonrpc) ∧ method = some (.string req.method) ∧
        params = some req.params ∧ id = some req.id := by
  simp only [JsonRpcRequest.ofMembers, Option.bind_eq_bind, Option.bind_eq_some_iff,
    Value.string?_eq_some, Option.pure_def, Option.some.injEq]
  constructor
  · rintro ⟨_, rfl, _, rfl, _, rfl, _, rfl, _, rfl, _, rfl, rfl⟩
    exact ⟨rfl, rfl, rfl, rfl⟩
  · rintro ⟨rfl, rfl, rfl, rfl⟩
    exact ⟨_, rfl, _, rfl, _, rfl, _, rfl, _, rfl, _, rfl, rfl⟩

theorem deserialize_object (members : List (String × Value)) (req : JsonRpcRequest) :
    JsonRpcRequest.deserialize (.object members) = some req ↔ Carries req (.object members) := by
  simp only [JsonRpcRequest.deserialize, Carries, RequestMembers.read, Option.bind_eq_bind,
    Option.bind_eq_some_iff, ofMembers_eq_some, Option.pure_def, Option.some.injEq,
    RequestMembers.mk.injEq]

theorem deserialize_array (elements : List Value) (req : JsonRpcRequest) :
    JsonRpcRequest.deserialize (.array elements) = some req ↔
      elements = [.string req.jsonrpc, .string req.method, req.params, req.id] := by
  rcases elements with _ | ⟨jsonrpc, _ | ⟨method, _ | ⟨params, _ | ⟨id, _ | ⟨more, rest⟩⟩⟩⟩⟩
  case cons.cons.cons.cons.nil => simp [JsonRpcRequest.deserialize, ofMembers_eq_some]
  all_goals simp [JsonRpcRequest.deserialize]

theorem deserialize_eq_some (tree : Value) (req : JsonRpcRequest) :
    JsonRpcRequest.deserialize tree = some req ↔
      Carries req tree ∨
        tree = .array [.string req.jsonrpc, .string req.method, req.params, req.id] := by
  cases tree with
  | object members => simp [deserialize_object]
  | array elements => simp [deserialize_array, Carries, RequestMembers.read]
  | null | bool _ | number _ | string _ =>
      simp [JsonRpcRequest.deserialize, Carries, RequestMembers.read]

theorem Carries.documented_iff {req : JsonRpcRequest} {tree : Value} (carries : Carries req tree) :
    DocumentedRequest tree ↔
      req.jsonrpc = "2.0" ∧ req.params.isStructured = true ∧ req.id.isIdentifier = true := by
  simp [DocumentedRequest, show RequestMembers.read tree = _ from carries,
    RequestMembers.Documented]

section

variable {Bytes : Type} (serde : SerdeJson Bytes) (size : Bytes → Nat)

def parseEncoding (tree : Value) : Except MadrpcError JsonRpcRequest :=
  HttpTransport.parseJsonrpc ⟨none, size (serde.toVec tree),
    serde.decode JsonRpcRequest.deserialize (serde.toVec tree)⟩

theorem parseEncoding_iff {tree : Value} (inverse : serde.Inverse tree)
    (within : size (serde.toVec tree) ≤ MAX_PAYLOAD_SIZE) (req : JsonRpcRequest) :
    parseEncoding serde size tree = .ok req ↔
      Carries req tree ∨
        tree = .array [.string req.jsonrpc, .string req.method, req.params, req.id] := by
  rw [← deserialize_eq_some, parseEncoding, HttpTransport.parseJsonrpc,
    if_neg (Nat.not_lt.mpr within), SerdeJson.decode, inverse]
  cases deserialized : JsonRpcRequest.deserialize tree <;> simp [deserialized]

def Conforms (tree : Value) : Prop :=
  ((∃ req, parseEncoding serde size tree = .ok req) ↔ DocumentedRequest tree) ∧
    ∀ req, parseEncoding serde size tree = .ok req → Carries req tree

end

/-- The trees for which the derived decoding asks what the documentation does. -/
structure DecodedAsDocumented (tree : Value) : Prop where
  noArray : ∀ jsonrpc method params id,
    tree ≠ .array [.string jsonrpc, .string method, params, id]
  checked : ∀ req, Carries req tree →
    req.jsonrpc = "2.0" ∧ req.params.isStructured = true ∧ req.id.isIdentifier = true
  noOmission : ∀ members, RequestMembers.read tree = some members → members.Documented →
    members.params ≠ none

theorem parse_jsonrpc_conforms_iff {Bytes : Type} (serde : SerdeJson Bytes) (size : Bytes → Nat)
    (tree : Value) (inverse : serde.Inverse tree)
    (within : size (serde.toVec tree) ≤ MAX_PAYLOAD_SIZE) :
    Conforms serde size tree ↔ DecodedAsDocumented tree := by
  have parsed := parseEncoding_iff serde size inverse within
  constructor
  · rintro ⟨accepted, carried⟩
    refine ⟨?_, ?_, ?_⟩
    · rintro jsonrpc method params id rfl
      exact nomatch carried ⟨jsonrpc, method, params, id⟩ ((parsed _).mpr (.inr rfl))
    · intro req carries
      exact carries.documented_iff.mp (accepted.mp ⟨req, (parsed req).mpr (.inl carries)⟩)
    · intro members read documented omitted
      obtain ⟨req, ok⟩ := accepted.mpr ⟨members, read, documented⟩
      have same := read.symm.trans (carried req ok)
      rw [Option.some.injEq] at same
      rw [same] at omitted
      cases omitted
  · rintro ⟨noArray, checked, noOmission⟩
    have carried : ∀ req, parseEncoding serde size tree = .ok req → Carries req tree := by
      intro req ok
      exact ((parsed req).mp ok).resolve_right (noArray _ _ _ _)
    refine ⟨⟨?_, ?_⟩, carried⟩
    · rintro ⟨req, ok⟩
      exact (carried req ok).documented_iff.mpr (checked req (carried req ok))
    · rintro ⟨members, read, documented⟩
      obtain ⟨params, given⟩ := Option.ne_none_iff_exists'.mp (noOmission members read documented)
      obtain ⟨jsonrpc, ⟨method, named⟩, -, id, identified, -⟩ := documented
      refine ⟨⟨"2.0", method, params, id⟩, (parsed _).mpr (.inl ?_)⟩
      rw [Carries, read, ← jsonrpc, ← named, ← given, ← Option.mem_def.mp identified]

def computeRequestText : String :=
  "\x7b\"jsonrpc\":\"2.0\",\"method\":\"compute\",\"params\":[],\"id\":1\x7d"

def computeRequest : Value :=
  .object [("id", .number (.posInt 1)), ("jsonrpc", .string "2.0"), ("method", .string "compute"),
    ("params", .array [])]

-- The one text as `serde_json` reads it.
def serdeOn (text : String) (tree : Value) : SerdeJson String where
  toVec _ := text
  fromSlice bytes := if bytes = text then .ok tree else .error "expected value at line 1 column 1"
  mismatch _ := "missing field"

theorem serdeOn_inverse (text : String) (tree : Value) : (serdeOn text tree).Inverse tree :=
  if_pos rfl

theorem parse_jsonrpc_conforms_iff_witness :
    Conforms (serdeOn computeRequestText computeRequest) String.utf8ByteSize computeRequest := by
  refine (parse_jsonrpc_conforms_iff (serdeOn computeRequestText computeRequest)
    String.utf8ByteSize computeRequest (serdeOn_inverse computeRequestText computeRequest)
    (by decide)).mpr ⟨nofun, ?_, ?_⟩
  · rintro ⟨jsonrpc, method, params, id⟩ carries
    cases show some (RequestMembers.mk (some (.string "2.0")) (some (.string "compute"))
      (some (.array [])) (some (.number (.posInt 1)))) = _ from carries
    exact ⟨rfl, rfl, rfl⟩
  · intro members read _ omitted
    cases read
    cases omitted

def versionOneText : String :=
  "\x7b\"jsonrpc\":\"1.0\",\"method\":\"compute\",\"params\":[],\"id\":1\x7d"

def versionOne : Value :=
  .object [("id", .number (.posInt 1)), ("jsonrpc", .string "1.0"), ("method", .string "compute"),
    ("params", .array [])]

def withoutParamsText : String :=
  "\x7b\"jsonrpc\":\"2.0\",\"method\":\"compute\",\"id\":1\x7d"

def withoutParams : Value :=
  .object [("id", .number (.posInt 1)), ("jsonrpc", .string "2.0"), ("method", .string "compute")]

/-- Another version is accepted, and a request without `params` is not. -/
theorem grammar_unchecked :
    ¬ Conforms (serdeOn versionOneText versionOne) String.utf8ByteSize versionOne ∧
      ¬ Conforms (serdeOn withoutParamsText withoutParams) String.utf8ByteSize withoutParams := by
  constructor
  · rintro ⟨accepted, -⟩
    have parsed := parseEncoding_iff (serdeOn versionOneText versionOne) String.utf8ByteSize
      (serdeOn_inverse versionOneText versionOne) (by decide)
      ⟨"1.0", "compute", .array [], .number (.posInt 1)⟩
    have carries : Carries ⟨"1.0", "compute", .array [], .number (.posInt 1)⟩ versionOne := rfl
    have documented := accepted.mp ⟨_, parsed.mpr (.inl carries)⟩
    exact absurd (carries.documented_iff.mp documented).1 (by decide)
  · rintro ⟨accepted, carried⟩
    obtain ⟨⟨_, _, _, _⟩, ok⟩ := accepted.mpr ⟨⟨some (.string "2.0"), some (.string "compute"),
      none, some (.number (.posInt 1))⟩, rfl, rfl, ⟨_, rfl⟩, nofun, _, rfl, rfl⟩
    cases show some (RequestMembers.mk (some (.string "2.0")) (some (.string "compute")) none
      (some (.number (.posInt 1)))) = _ from carried _ ok

end MadRpc
