import Mathlib.Data.List.Basic

set_option autoImplicit false

/-!
# Machines that take one atomic step per input

Whatever a step does not decide itself (which caller is scheduled, what the clock
says, what a remote party answers) is part of its input, so a statement about all
input lists is a statement about all interleavings.
-/

universe u v w

structure Machine (State : Type u) (Input : Type v) (Output : Type w) where
  step : State → Input → State × Output

namespace Machine

variable {State : Type u} {Input : Type v} {Output : Type w}

def run (machine : Machine State Input Output) : State → List Input → State
  | state, [] => state
  | state, input :: rest => machine.run (machine.step state input).1 rest

def outputs (machine : Machine State Input Output) : State → List Input → List Output
  | _, [] => []
  | state, input :: rest =>
      (machine.step state input).2 :: machine.outputs (machine.step state input).1 rest

@[simp]
theorem run_nil (machine : Machine State Input Output) (state : State) :
    machine.run state [] = state := rfl

@[simp]
theorem run_cons (machine : Machine State Input Output) (state : State) (input : Input)
    (rest : List Input) :
    machine.run state (input :: rest) = machine.run (machine.step state input).1 rest := rfl

@[simp]
theorem outputs_nil (machine : Machine State Input Output) (state : State) :
    machine.outputs state [] = [] := rfl

@[simp]
theorem outputs_cons (machine : Machine State Input Output) (state : State) (input : Input)
    (rest : List Input) :
    machine.outputs state (input :: rest) =
      (machine.step state input).2 :: machine.outputs (machine.step state input).1 rest := rfl

theorem run_append (machine : Machine State Input Output) (state : State)
    (before after : List Input) :
    machine.run state (before ++ after) = machine.run (machine.run state before) after := by
  induction before generalizing state with
  | nil => rfl
  | cons input rest ih => exact ih _

theorem outputs_append (machine : Machine State Input Output) (state : State)
    (before after : List Input) :
    machine.outputs state (before ++ after) =
      machine.outputs state before ++ machine.outputs (machine.run state before) after := by
  induction before generalizing state with
  | nil => rfl
  | cons input rest ih => simp [ih]

@[simp]
theorem outputs_length (machine : Machine State Input Output) (state : State)
    (inputs : List Input) : (machine.outputs state inputs).length = inputs.length := by
  induction inputs generalizing state with
  | nil => rfl
  | cons input rest ih => simp [ih]

theorem outputs_take (machine : Machine State Input Output) (state : State)
    (inputs : List Input) (count : Nat) :
    (machine.outputs state inputs).take count = machine.outputs state (inputs.take count) := by
  induction inputs generalizing state count with
  | nil => simp
  | cons input rest ih => cases count <;> simp [ih]

theorem outputs_drop (machine : Machine State Input Output) (state : State)
    (inputs : List Input) (count : Nat) :
    (machine.outputs state inputs).drop count =
      machine.outputs (machine.run state (inputs.take count)) (inputs.drop count) := by
  induction inputs generalizing state count with
  | nil => simp
  | cons input rest ih => cases count <;> simp [ih]

theorem outputs_getElem? (machine : Machine State Input Output) (state : State)
    (inputs : List Input) (index : Nat) :
    (machine.outputs state inputs)[index]? =
      inputs[index]?.map fun input =>
        (machine.step (machine.run state (inputs.take index)) input).2 := by
  induction inputs generalizing state index with
  | nil => simp
  | cons input rest ih => cases index <;> simp [ih]

def EachStep (machine : Machine State Input Output) (condition : State → Input → Prop) :
    State → List Input → Prop
  | _, [] => True
  | state, input :: rest =>
      condition state input ∧ machine.EachStep condition (machine.step state input).1 rest

instance decidableEachStep (machine : Machine State Input Output)
    (condition : State → Input → Prop) [∀ state input, Decidable (condition state input)] :
    (state : State) → (inputs : List Input) → Decidable (machine.EachStep condition state inputs)
  | _, [] => inferInstanceAs (Decidable True)
  | state, input :: rest =>
      @instDecidableAnd _ _ _
        (decidableEachStep machine condition (machine.step state input).1 rest)

theorem eachStep_of_forall (machine : Machine State Input Output) (condition : Input → Prop)
    (state : State) (inputs : List Input) (each : ∀ input ∈ inputs, condition input) :
    machine.EachStep (fun _ => condition) state inputs := by
  induction inputs generalizing state with
  | nil => trivial
  | cons input rest ih =>
      exact ⟨each input List.mem_cons_self,
        ih _ fun later member => each later (List.mem_cons_of_mem input member)⟩

theorem eachStep_congr (machine : Machine State Input Output)
    {condition other : State → Input → Prop} (same : ∀ state input,
      condition state input ↔ other state input) (state : State) (inputs : List Input) :
    machine.EachStep condition state inputs ↔ machine.EachStep other state inputs := by
  induction inputs generalizing state with
  | nil => exact Iff.rfl
  | cons input rest ih => exact and_congr (same state input) (ih _)

theorem eachStep_mono (machine : Machine State Input Output)
    {condition weaker : State → Input → Prop} (weakens : ∀ state input,
      condition state input → weaker state input) (state : State) (inputs : List Input)
    (steps : machine.EachStep condition state inputs) : machine.EachStep weaker state inputs := by
  induction inputs generalizing state with
  | nil => trivial
  | cons input rest ih => exact ⟨weakens state input steps.1, ih _ steps.2⟩

theorem eachStep_append (machine : Machine State Input Output)
    (condition : State → Input → Prop) (state : State) (before after : List Input) :
    machine.EachStep condition state (before ++ after) ↔
      machine.EachStep condition state before ∧
        machine.EachStep condition (machine.run state before) after := by
  induction before generalizing state with
  | nil => exact ⟨fun later => ⟨trivial, later⟩, And.right⟩
  | cons input rest ih => simp [EachStep, ih, and_assoc]

theorem run_invariant_of_steps (machine : Machine State Input Output) (invariant : State → Prop)
    (condition : State → Input → Prop)
    (preserved : ∀ state input, invariant state → condition state input →
      invariant (machine.step state input).1)
    (state : State) (inputs : List Input) (initial : invariant state)
    (steps : machine.EachStep condition state inputs) :
    invariant (machine.run state inputs) := by
  induction inputs generalizing state with
  | nil => exact initial
  | cons input rest ih => exact ih _ (preserved state input initial steps.1) steps.2

theorem run_invariant (machine : Machine State Input Output) (invariant : State → Prop)
    (preserved : ∀ state input, invariant state → invariant (machine.step state input).1)
    (state : State) (inputs : List Input) (initial : invariant state) :
    invariant (machine.run state inputs) :=
  machine.run_invariant_of_steps invariant (fun _ _ => True)
    (fun state input holds _ => preserved state input holds) state inputs initial
    (machine.eachStep_of_forall _ state inputs fun _ _ => trivial)

theorem eachStep_of_invariant (machine : Machine State Input Output) (invariant : State → Prop)
    (condition conclusion : State → Input → Prop)
    (preserved : ∀ state input, invariant state → condition state input →
      invariant (machine.step state input).1)
    (concludes : ∀ state input, invariant state → condition state input → conclusion state input)
    (state : State) (inputs : List Input) (initial : invariant state)
    (steps : machine.EachStep condition state inputs) :
    machine.EachStep conclusion state inputs := by
  induction inputs generalizing state with
  | nil => trivial
  | cons input rest ih =>
      exact ⟨concludes state input initial steps.1,
        ih _ (preserved state input initial steps.1) steps.2⟩

theorem forall_outputs (machine : Machine State Input Output) (invariant : State → Prop)
    (condition : State → Input → Prop) (property : Output → Prop)
    (preserved : ∀ state input, invariant state → condition state input →
      invariant (machine.step state input).1)
    (yields : ∀ state input, invariant state → condition state input →
      property (machine.step state input).2)
    (state : State) (inputs : List Input) (initial : invariant state)
    (steps : machine.EachStep condition state inputs) :
    ∀ output ∈ machine.outputs state inputs, property output := by
  induction inputs generalizing state with
  | nil => exact fun _ member => absurd member List.not_mem_nil
  | cons input rest ih =>
      exact List.forall_mem_cons.mpr ⟨yields state input initial steps.1,
        ih _ (preserved state input initial steps.1) steps.2⟩

/-- What holds after a run and can be traced back step by step, with a condition met on the way. -/
theorem eachStep_of_last (machine : Machine State Input Output) (invariant last : State → Prop)
    (condition : State → Input → Prop)
    (preserved : ∀ state input, invariant state → invariant (machine.step state input).1)
    (back : ∀ state input, invariant state → last (machine.step state input).1 →
      condition state input ∧ last state)
    (state : State) (inputs : List Input) (initial : invariant state)
    (ended : last (machine.run state inputs)) :
    machine.EachStep condition state inputs ∧ last state := by
  induction inputs generalizing state with
  | nil => exact ⟨trivial, ended⟩
  | cons input rest ih =>
      obtain ⟨later, next⟩ := ih _ (preserved state input initial) ended
      obtain ⟨now, here⟩ := back state input initial next
      exact ⟨⟨now, later⟩, here⟩

/-! ## What a run is remembered by -/

/-- What the steps tell that tell something. -/
def told {Told : Type*} (machine : Machine State Input (Option Told)) (state : State)
    (inputs : List Input) : List Told :=
  (machine.outputs state inputs).filterMap id

theorem told_cons {Told : Type*} (machine : Machine State Input (Option Told)) (state : State)
    (input : Input) (rest : List Input) :
    machine.told state (input :: rest) =
      (machine.step state input).2.toList ++ machine.told (machine.step state input).1 rest := by
  rw [told, outputs_cons, List.filterMap_cons]
  cases (machine.step state input).2 <;> rfl

theorem told_split {Told : Type*} (machine : Machine State Input (Option Told)) {state : State}
    {inputs : List Input} {told : Told} (member : told ∈ machine.told state inputs) :
    ∃ before input after, inputs = before ++ input :: after ∧
      (machine.step (machine.run state before) input).2 = some told := by
  induction inputs generalizing state with
  | nil => exact absurd member List.not_mem_nil
  | cons input rest ih =>
      rw [told_cons] at member
      rcases List.mem_append.mp member with now | later
      · exact ⟨[], input, rest, rfl, Option.mem_toList.mp now⟩
      · obtain ⟨before, next, after, rfl, here⟩ := ih later
        exact ⟨input :: before, next, after, rfl, here⟩

theorem run_told {Told : Type*} (machine : Machine State Input (Option Told))
    (agrees : State → List Told → Prop)
    (preserved : ∀ state before input, agrees state before →
      agrees (machine.step state input).1 (before ++ (machine.step state input).2.toList))
    (state : State) (inputs : List Input) (before : List Told) (initial : agrees state before) :
    agrees (machine.run state inputs) (before ++ machine.told state inputs) := by
  induction inputs generalizing state before with
  | nil => simpa [told] using initial
  | cons input rest ih =>
      rw [told_cons, ← List.append_assoc]
      exact ih _ _ (preserved state before input initial)

/-- What is written down of each step, in the state before it. -/
def history {Record : Type*} (machine : Machine State Input Output)
    (record : State → Input → Record → Record) : State → List Input → Record → Record
  | _, [], recorded => recorded
  | state, input :: rest, recorded =>
      machine.history record (machine.step state input).1 rest (record state input recorded)

def EachRecorded {Record : Type*} (machine : Machine State Input Output)
    (record : State → Input → Record → Record) (condition : Record → Input → Prop) :
    State → List Input → Record → Prop
  | _, [], _ => True
  | state, input :: rest, recorded =>
      condition recorded input ∧
        machine.EachRecorded record condition (machine.step state input).1 rest
          (record state input recorded)

instance decidableEachRecorded {Record : Type*} (machine : Machine State Input Output)
    (record : State → Input → Record → Record) (condition : Record → Input → Prop)
    [∀ recorded input, Decidable (condition recorded input)] :
    (state : State) → (inputs : List Input) → (recorded : Record) →
      Decidable (machine.EachRecorded record condition state inputs recorded)
  | _, [], _ => inferInstanceAs (Decidable True)
  | state, input :: rest, recorded =>
      @instDecidableAnd _ _ _
        (decidableEachRecorded machine record condition (machine.step state input).1 rest
          (record state input recorded))

theorem eachRecorded_iff {Record : Type*} (machine : Machine State Input Output)
    (record : State → Input → Record → Record) (agrees : Record → State → Prop)
    (condition : Record → Input → Prop) (conclusion : State → Input → Prop)
    (preserved : ∀ state input recorded, agrees recorded state →
      agrees (record state input recorded) (machine.step state input).1)
    (decides : ∀ state input recorded, agrees recorded state →
      (condition recorded input ↔ conclusion state input))
    (state : State) (inputs : List Input) (recorded : Record) (initial : agrees recorded state) :
    machine.EachRecorded record condition state inputs recorded ↔
      machine.EachStep conclusion state inputs := by
  induction inputs generalizing state recorded with
  | nil => exact Iff.rfl
  | cons input rest ih =>
      exact and_congr (decides state input recorded initial)
        (ih _ _ (preserved state input recorded initial))

theorem run_history {Record : Type*} (machine : Machine State Input Output)
    (record : State → Input → Record → Record) (agrees : Record → State → Prop)
    (condition : State → Input → Prop)
    (preserved : ∀ state input recorded, agrees recorded state → condition state input →
      agrees (record state input recorded) (machine.step state input).1)
    (state : State) (inputs : List Input) (recorded : Record) (initial : agrees recorded state)
    (steps : machine.EachStep condition state inputs) :
    agrees (machine.history record state inputs recorded) (machine.run state inputs) := by
  induction inputs generalizing state recorded with
  | nil => exact initial
  | cons input rest ih => exact ih _ _ (preserved state input recorded initial steps.1) steps.2

/-! ## What may be left out of a run -/

/-- Steps that the relation does not notice can be left out, and nothing that is kept is answered
differently. The relation may depend on the inputs to come. -/
theorem run_filter (machine : Machine State Input Output) (keep : Input → Bool)
    (related : List Input → State → State → Prop)
    (dropped : ∀ input rest state other, related (input :: rest) state other →
      keep input = false → related rest (machine.step state input).1 other)
    (kept : ∀ input rest state other, related (input :: rest) state other → keep input = true →
      related rest (machine.step state input).1 (machine.step other input).1 ∧
        (machine.step state input).2 = (machine.step other input).2)
    (inputs : List Input) (state other : State) (initial : related inputs state other) :
    related [] (machine.run state inputs) (machine.run other (inputs.filter keep)) ∧
      ((inputs.zip (machine.outputs state inputs)).filter fun answered =>
        keep answered.1).map Prod.snd = machine.outputs other (inputs.filter keep) := by
  induction inputs generalizing state other with
  | nil => exact ⟨initial, rfl⟩
  | cons input rest ih =>
      cases here : keep input with
      | false =>
          have later := ih _ _ (dropped input rest state other initial here)
          simpa [here] using later
      | true =>
          obtain ⟨next, same⟩ := kept input rest state other initial here
          have later := ih _ _ next
          simpa [here, same] using later

def Throughout (machine : Machine State Input Output) (property : State → Prop) :
    State → List Input → Prop
  | state, [] => property state
  | state, input :: rest =>
      property state ∧ machine.Throughout property (machine.step state input).1 rest

instance decidableThroughout (machine : Machine State Input Output) (property : State → Prop)
    [DecidablePred property] :
    (state : State) → (inputs : List Input) → Decidable (machine.Throughout property state inputs)
  | state, [] => inferInstanceAs (Decidable (property state))
  | state, input :: rest =>
      @instDecidableAnd _ _ _
        (decidableThroughout machine property (machine.step state input).1 rest)

theorem Throughout.first {machine : Machine State Input Output} {property : State → Prop}
    {state : State} {inputs : List Input}
    (throughout : machine.Throughout property state inputs) : property state := by
  cases inputs with
  | nil => exact throughout
  | cons input rest => exact throughout.1

theorem Throughout.last {machine : Machine State Input Output} {property : State → Prop}
    {state : State} {inputs : List Input}
    (throughout : machine.Throughout property state inputs) :
    property (machine.run state inputs) := by
  induction inputs generalizing state with
  | nil => exact throughout
  | cons input rest ih => exact ih throughout.2

theorem Throughout.mono {machine : Machine State Input Output} {property weaker : State → Prop}
    {state : State} {inputs : List Input} (throughout : machine.Throughout property state inputs)
    (weakens : ∀ state, property state → weaker state) :
    machine.Throughout weaker state inputs := by
  induction inputs generalizing state with
  | nil => exact weakens state throughout
  | cons input rest ih => exact ⟨weakens state throughout.1, ih throughout.2⟩

theorem throughout_of_steps (machine : Machine State Input Output) (invariant : State → Prop)
    (condition : State → Input → Prop)
    (preserved : ∀ state input, invariant state → condition state input →
      invariant (machine.step state input).1)
    (state : State) (inputs : List Input) (initial : invariant state)
    (steps : machine.EachStep condition state inputs) :
    machine.Throughout invariant state inputs := by
  induction inputs generalizing state with
  | nil => exact initial
  | cons input rest ih =>
      exact ⟨initial, ih _ (preserved state input initial steps.1) steps.2⟩

/-- Where `condition` decides of each step whether `property` survives it, it does so of runs. -/
theorem throughout_iff_eachStep (machine : Machine State Input Output)
    (invariant property : State → Prop) (condition : State → Input → Prop)
    (preserved : ∀ state input, invariant state → invariant (machine.step state input).1)
    (decides : ∀ state input, invariant state → property state →
      (property (machine.step state input).1 ↔ condition state input))
    (state : State) (inputs : List Input) (holds : invariant state) (initial : property state) :
    machine.Throughout property state inputs ↔ machine.EachStep condition state inputs := by
  induction inputs generalizing state with
  | nil => exact iff_of_true initial trivial
  | cons input rest ih =>
      have here := decides state input holds initial
      constructor
      · intro throughout
        have next := throughout.2.first
        exact ⟨here.mp next, (ih _ (preserved state input holds) next).mp throughout.2⟩
      · intro steps
        have next := here.mpr steps.1
        exact ⟨initial, (ih _ (preserved state input holds) next).mpr steps.2⟩

theorem throughout_append (machine : Machine State Input Output) (property : State → Prop)
    (state : State) (before after : List Input) :
    machine.Throughout property state (before ++ after) ↔
      machine.Throughout property state before ∧
        machine.Throughout property (machine.run state before) after := by
  induction before generalizing state with
  | nil => exact ⟨fun holds => ⟨holds.first, holds⟩, And.right⟩
  | cons input rest ih => simp [Throughout, ih, and_assoc]

/-- Operations that are runs of their own keep along their inputs what each of them keeps. -/
theorem throughout_flatMap {Operation : Type*} (machine : Machine State Input Output)
    (property : State → Prop) (stages : Operation → List Input) (operations : List Operation)
    (each : ∀ operation ∈ operations, ∀ state, property state →
      machine.Throughout property state (stages operation))
    (state : State) (initial : property state) :
    machine.Throughout property state (operations.flatMap stages) := by
  induction operations generalizing state with
  | nil => exact initial
  | cons operation rest ih =>
      obtain ⟨first, others⟩ := List.forall_mem_cons.mp each
      have staged := first state initial
      exact (machine.throughout_append property state _ _).mpr
        ⟨staged, ih others _ staged.last⟩

end Machine
