set_option autoImplicit false

namespace MadRpc

/-- The headers of a request in order, under lower-case names. -/
structure HeaderMap where
  entries : List (String × ByteArray)

def HeaderMap.get (headers : HeaderMap) (name : String) : Option ByteArray :=
  -- The first value is the one returned.
  headers.entries.lookup name

structure AuthConfig where
  apiKey : Option String

def bytes (text : String) : List UInt8 := text.toByteArray.data.toList

def foldDifference : UInt8 → List (UInt8 × UInt8) → UInt8
  | result, [] => result
  | result, (first, second) :: rest => foldDifference (result ||| (first ^^^ second)) rest

def constantTimeEq (first second : String) : Bool :=
  if first.utf8ByteSize ≠ second.utf8ByteSize then false
  else foldDifference 0 ((bytes first).zip (bytes second)) = 0

namespace AuthConfig

def withApiKey (apiKey : String) : AuthConfig := ⟨some apiKey⟩

def disabled : AuthConfig := ⟨none⟩

def requiresAuth (config : AuthConfig) : Bool := config.apiKey.isSome

def validateApiKey (config : AuthConfig) (providedKey : String) : Bool :=
  match config.apiKey with
  | some expectedKey => constantTimeEq expectedKey providedKey
  | none => true

end AuthConfig

theorem foldDifference_eq_zero (result : UInt8) (pairs : List (UInt8 × UInt8)) :
    foldDifference result pairs = 0 ↔ result = 0 ∧ ∀ pair ∈ pairs, pair.1 = pair.2 := by
  -- A bit once set stays set, so the accumulator is zero only if no pair differs.
  induction pairs generalizing result with
  | nil => simp [foldDifference]
  | cons pair rest ih =>
      rw [foldDifference, ih, UInt8.or_eq_zero_iff, UInt8.xor_eq_zero_iff, List.forall_mem_cons,
        and_assoc]

theorem forall_mem_zip_eq {Item : Type} (first second : List Item)
    (aligned : first.length = second.length) :
    (∀ pair ∈ first.zip second, pair.1 = pair.2) ↔ first = second := by
  induction first generalizing second with
  | nil =>
      cases second with
      | nil => simp
      | cons => simp at aligned
  | cons head rest ih =>
      cases second with
      | nil => simp at aligned
      | cons other tail =>
          have shorter : rest.length = tail.length := by simpa using aligned
          rw [List.zip_cons_cons, List.forall_mem_cons, ih tail shorter, List.cons.injEq]

theorem bytes_inj (first second : String) : bytes first = bytes second ↔ first = second := by
  constructor
  · intro same
    apply String.toByteArray_inj.mp
    apply ByteArray.ext
    exact Array.toList_inj.mp same
  · rintro rfl
    rfl

theorem constantTimeEq_iff (first second : String) :
    constantTimeEq first second = true ↔ first = second := by
  have length (text : String) : (bytes text).length = text.utf8ByteSize := by
    rw [bytes, Array.length_toList]
    exact String.size_toByteArray
  by_cases aligned : first.utf8ByteSize = second.utf8ByteSize
  · have same : (bytes first).length = (bytes second).length := by
      rw [length, length, aligned]
    simp only [constantTimeEq, aligned, ne_eq, not_true_eq_false, if_false, decide_eq_true_eq,
      foldDifference_eq_zero, true_and]
    rw [forall_mem_zip_eq _ _ same, bytes_inj]
  · simp only [constantTimeEq, aligned, ne_eq, not_false_eq_true, if_true, Bool.false_eq_true,
      false_iff]
    rintro rfl
    exact aligned rfl

end MadRpc
