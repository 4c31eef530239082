import MadRpc.Common.Error
import MadRpc.Shared.Machine

set_option autoImplicit false

/-!
# The connections of the node's server

A connection is its number in the order in which they are accepted.
-/

namespace MadRpc

namespace NodeHttpServer

def MAX_CONCURRENT_CONNECTIONS : Nat := 1000

inductive AcceptPoint where
  | accepting
  -- With a connection that has no permit yet.
  | acquiring (connection : Nat)
  -- `run` has returned.
  | stopped (err : MadrpcError)
  deriving DecidableEq

structure Connections where
  permits : Nat
  point : AcceptPoint
  -- The tasks that hold a permit.
  serving : List Nat
  accepted : Nat
  deriving DecidableEq

inductive ConnectionStep where
  | accept (result : Except String Unit)
  | acquire
  | close (connection : Nat)

def AcceptPoint.waiting : AcceptPoint → Option Nat
  | .acquiring connection => some connection
  | _ => none

namespace Connections

def initial : Connections where
  permits := MAX_CONCURRENT_CONNECTIONS
  point := .accepting
  serving := []
  accepted := 0

/-- The loop of `run` and the tasks it has spawned. A step tells which connection is served from
now on. -/
def machine : Machine Connections ConnectionStep (Option Nat) where
  step state
    | .accept result =>
        match state.point, result with
        | .accepting, .ok () =>
            ({ state with point := .acquiring state.accepted, accepted := state.accepted + 1 },
              none)
        | .accepting, .error e =>
            ({ state with
                point := .stopped (.transport ("Failed to accept connection: " ++ e)) }, none)
        | _, _ => (state, none)
    | .acquire =>
        match state.point with
        | .acquiring connection =>
            if state.permits = 0 then (state, none)
            else
              ({ state with
                  permits := state.permits - 1, point := .accepting,
                  serving := state.serving ++ [connection] }, some connection)
        | _ => (state, none)
    | .close connection =>
        if connection ∈ state.serving then
          ({ state with
              permits := state.permits + 1, serving := state.serving.erase connection }, none)
        else (state, none)

/-- What has been served so far, with what waits, is all that has been accepted, in order. -/
structure Limited (state : Connections) (served : List Nat) : Prop where
  permits : state.permits + state.serving.length = MAX_CONCURRENT_CONNECTIONS
  order : served ++ state.point.waiting.toList = List.range state.accepted
  among : state.serving.Sublist served

theorem Limited.acquired {state : Connections} {served : List Nat} (limited : state.Limited served)
    {connection : Nat} (point : state.point = .acquiring connection) (free : state.permits ≠ 0) :
    Limited { state with
      permits := state.permits - 1, point := .accepting,
      serving := state.serving ++ [connection] } (served ++ [connection]) where
  permits := by
    have all := limited.permits
    rw [List.length_append, List.length_singleton]
    show state.permits - 1 + _ = _
    omega
  order := by
    have order := limited.order
    rw [point] at order
    simpa [AcceptPoint.waiting] using order
  among := limited.among.append (List.Sublist.refl _)

theorem Limited.closed {state : Connections} {served : List Nat} (limited : state.Limited served)
    {connection : Nat} (serves : connection ∈ state.serving) :
    Limited { state with
      permits := state.permits + 1, serving := state.serving.erase connection } served where
  permits := by
    have all := limited.permits
    have few := List.length_erase_of_mem serves
    have some' := List.length_pos_of_mem serves
    show state.permits + 1 + (state.serving.erase connection).length = _
    omega
  order := limited.order
  among := List.erase_sublist.trans limited.among

theorem step_limited (state : Connections) (served : List Nat) (step : ConnectionStep)
    (limited : state.Limited served) :
    (machine.step state step).1.Limited (served ++ (machine.step state step).2.toList) := by
  have same : state.Limited (served ++ (none : Option Nat).toList) := by
    rwa [Option.toList_none, List.append_nil]
  cases step with
  | accept result =>
      simp only [machine]
      split
      next _ accepting =>
        refine ⟨same.permits, ?_, same.among⟩
        have order := same.order
        rw [accepting] at order
        simp only [AcceptPoint.waiting, Option.toList_none, Option.toList_some, List.append_nil]
          at order ⊢
        rw [order, List.range_succ]
      next _ accepting =>
        refine ⟨same.permits, ?_, same.among⟩
        have order := same.order
        rw [accepting] at order
        exact order
      next => exact same
  | acquire =>
      simp only [machine]
      split
      next connection point =>
        split
        next => exact same
        next free => exact limited.acquired point free
      next => exact same
  | close connection =>
      simp only [machine]
      split
      next serves =>
        rw [Option.toList_none, List.append_nil]
        exact limited.closed serves
      next => exact same

theorem run_limited (steps : List ConnectionStep) :
    (machine.run initial steps).Limited (machine.told initial steps) :=
  machine.run_told Limited step_limited initial steps [] ⟨rfl, rfl, List.Sublist.refl _⟩

theorem step_failed {state : Connections} (accepting : state.point = .accepting) (e : String) :
    (machine.step state (.accept (.error e))).1.point =
      .stopped (.transport ("Failed to accept connection: " ++ e)) := by
  simp only [machine, accepting]

theorem step_stopped {state : Connections} {err : MadrpcError}
    (stopped : state.point = .stopped err) (step : ConnectionStep) :
    (machine.step state step).2 = none ∧ (machine.step state step).1.point = .stopped err ∧
      (machine.step state step).1.serving.Sublist state.serving := by
  cases step with
  | accept result => simp [machine, stopped]
  | acquire => simp [machine, stopped]
  | close connection =>
      simp only [machine]
      split
      next => exact ⟨rfl, stopped, List.erase_sublist⟩
      next => exact ⟨rfl, stopped, List.Sublist.refl _⟩

theorem run_stopped {state : Connections} {err : MadrpcError}
    (stopped : state.point = .stopped err) (steps : List ConnectionStep) :
    (∀ output ∈ machine.outputs state steps, output = none) ∧
      (machine.run state steps).serving.Sublist state.serving := by
  induction steps generalizing state with
  | nil => exact ⟨fun _ none' => absurd none' List.not_mem_nil, List.Sublist.refl _⟩
  | cons step rest ih =>
      obtain ⟨silent, still, fewer⟩ := step_stopped stopped step
      obtain ⟨later, fewest⟩ := ih still
      exact ⟨List.forall_mem_cons.mpr ⟨silent, later⟩, fewest.trans fewer⟩

/-- Connections are served once each and in the order of their acceptance, a bounded number at a
time. Only a full server lets one wait, and only a failed `accept` is the end of it. -/
theorem connections_limited (steps : List ConnectionStep) (state : Connections)
    (ended : machine.run initial steps = state) :
    state.serving.length ≤ MAX_CONCURRENT_CONNECTIONS ∧
      state.serving.Sublist (machine.told initial steps) ∧
      machine.told initial steps ++ state.point.waiting.toList = List.range state.accepted ∧
      (∀ connection, state.point = .acquiring connection →
        ((machine.step state .acquire).2 = some connection ↔
          state.serving.length < MAX_CONCURRENT_CONNECTIONS)) ∧
      (state.point = .accepting → ∀ e, (machine.step state (.accept (.error e))).1.point =
        .stopped (.transport ("Failed to accept connection: " ++ e))) ∧
      ∀ err, state.point = .stopped err → ∀ later,
        (∀ output ∈ machine.outputs state later, output = none) ∧
          (machine.run state later).serving.Sublist state.serving := by
  have limited := run_limited steps
  rw [ended] at limited
  have all := limited.permits
  refine ⟨by omega, limited.among, limited.order, fun connection point => ?_,
    fun accepting e => step_failed accepting e, fun err stopped later => run_stopped stopped later⟩
  simp only [machine, point]
  split
  next full => exact iff_of_false nofun (by omega)
  next free => exact iff_of_true rfl (by omega)

/-! The second connection waits for a step of the loop, and the third `accept` fails. -/

def fewConnections : List ConnectionStep :=
  [.accept (.ok ()), .acquire, .accept (.ok ()), .close 0, .acquire, .accept (.error "EMFILE")]

theorem connections_limited_witness :
    machine.told initial fewConnections = [0, 1] ∧
      ∀ later, ∀ output ∈ machine.outputs (machine.run initial fewConnections) later,
        output = none := by
  obtain ⟨-, -, order, -, -, stopped⟩ := connections_limited fewConnections _ rfl
  have point : (machine.run initial fewConnections).point =
      .stopped (.transport "Failed to accept connection: EMFILE") := rfl
  refine ⟨?_, fun later => (stopped _ point later).1⟩
  rw [point, show (AcceptPoint.stopped _).waiting = none from rfl, Option.toList_none,
    List.append_nil] at order
  exact order

end Connections

end NodeHttpServer

end MadRpc
