import MadRpc.Server.Context
import MadRpc.Server.JobAccounting
import MadRpc.Shared.Machine

set_option autoImplicit false

/-!
# The wait for a promise

What `call_rpc_async` does once the function has returned a promise, a pass of one of its two
loops at a time. Times are milliseconds since the wait began.
-/

namespace MadRpc

inductive WaitPhase where
  -- Before the test of the deadline.
  | testing
  -- Before a pass of the loop in `run_jobs_async`, with the time of the last test.
  | runningJobs (tested : Nat)
  -- Before the look at the promise.
  | matching (tested : Nat)
  | returned (result : Except MadrpcError Value)
  | panicked

structure PromiseWait (Object World Code Future : Type) where
  elapsed : Nat
  phase : WaitPhase
  executor : TokioJobExecutor World Code Future
  -- The time of the test and the state of the promise, once for each poll.
  observed : List (Nat × PromiseState Object)

/-- The time that passes before a step, and the order in which its poll finds the futures. -/
structure WaitInput where
  passed : Nat
  polls : List Nat

inductive WaitAction where
  -- A pass of either loop that goes on past the test that ends the loop.
  | iteration
  | leftJobs
  | slept
  | finished
  deriving DecidableEq, Repr

namespace PromiseWait

variable {Object World Code Future : Type}

def start (executor : TokioJobExecutor World Code Future) :
    PromiseWait Object World Code Future where
  elapsed := 0
  phase := .testing
  executor := executor
  observed := []

def Ended (wait : PromiseWait Object World Code Future) : Prop :=
  match wait.phase with
  | .returned _ | .panicked => True
  | _ => False

def InRunJobs (wait : PromiseWait Object World Code Future) : Prop :=
  match wait.phase with
  | .runningJobs _ => True
  | _ => False

variable (engine : JsEngine Object)
  (promiseState : World → PromiseState Object) (program : JobProgram World Code Future)

def settled : PromiseState Object → Option (Except MadrpcError Value)
  | .pending => none
  | .fulfilled value => some (engine.jsToJson value)
  | .rejected reason =>
      some (.error (.javaScriptExecution
        ("Promise rejected: " ++ MadrpcContext.rejection engine reason)))

def polling : Machine (PromiseWait Object World Code Future) WaitInput WaitAction where
  step wait input :=
    let now := wait.elapsed + input.passed
    let wait := { wait with elapsed := now }
    let state := promiseState wait.executor.world
    match wait.phase with
    | .testing =>
        if MAX_PROMISE_WAIT_MS ≤ now then
          ({ wait with
              phase := .returned (.error (.javaScriptExecution
                ("Promise did not resolve within " ++ toString MAX_PROMISE_WAIT_MS ++
                  "ms timeout")))
              observed := wait.observed ++ [(now, state)] }, .finished)
        else
          ({ wait with phase := .runningJobs now, executor := { wait.executor with group := [] } },
            .iteration)
    | .runningJobs tested =>
        -- The deadline is not tested here.
        match wait.executor.turn program input.polls with
        | .returned executor =>
            ({ wait with phase := .matching tested, executor := executor }, .leftJobs)
        | .running executor => ({ wait with executor := executor }, .iteration)
        | .panicked => ({ wait with phase := .panicked }, .iteration)
    | .matching tested =>
        let wait := { wait with observed := wait.observed ++ [(tested, state)] }
        match settled engine state with
        | none =>
            ({ wait with phase := .testing, elapsed := now + PROMISE_POLL_INTERVAL_ASYNC_MS },
              .slept)
        | some result => ({ wait with phase := .returned result }, .finished)
    | .returned _ | .panicked => (wait, .finished)

end PromiseWait

namespace TokioJobExecutor

variable {World Code Future : Type} (program : JobProgram World Code Future)

theorem startJobs_inFlight (jobs : List (Nat × Code))
    {executor after : TokioJobExecutor World Code Future}
    (started : startJobs program jobs executor = some after) :
    after.inFlight = executor.inFlight ++ jobs.map Prod.fst := by
  induction jobs generalizing executor with
  | nil =>
      cases started
      exact (List.append_nil _).symm
  | cons job rest ih =>
      obtain ⟨ticket, code⟩ := job
      obtain ⟨called, enqueued, others⟩ := Option.bind_eq_some_iff.mp started
      have kept := enqueueAll_group (some .async) _ enqueued
      rw [ih others]
      simp [inFlight, kept]

theorem takeAsyncJobs_idle {executor after : TokioJobExecutor World Code Future}
    (taken : executor.takeAsyncJobs program = some after) (idle : after.isIdle = true) :
    executor.hasPendingJobs = false ∧ executor.group = [] := by
  have flight := startJobs_inFlight program executor.asyncJobs taken
  simp only [isIdle, Bool.and_eq_true, List.isEmpty_iff] at idle
  obtain ⟨⟨group, promiseJobs⟩, genericJobs⟩ := idle
  rw [inFlight, group] at flight
  obtain ⟨before, asyncs⟩ := List.append_eq_nil_iff.mp flight.symm
  have asyncJobs : executor.asyncJobs = [] := List.map_eq_nil_iff.mp asyncs
  -- No job was started, so nothing was enqueued either.
  rw [takeAsyncJobs, asyncJobs] at taken
  cases taken
  refine ⟨?_, List.map_eq_nil_iff.mp before⟩
  simp only at promiseJobs genericJobs
  simp [hasPendingJobs, promiseJobs, asyncJobs, genericJobs]

theorem turn_returned_iff (polls : List Nat) (executor : TokioJobExecutor World Code Future) :
    (∃ after, executor.turn program polls = .returned after) ↔
      executor.hasPendingJobs = false ∧ executor.group = [] := by
  constructor
  · rintro ⟨after, returned⟩
    unfold turn at returned
    split at returned
    next => cases returned
    next started taken =>
      split at returned
      next idle => exact takeAsyncJobs_idle program taken idle
      next => split at returned <;> cases returned
  · rintro ⟨pending, group⟩
    simp only [hasPendingJobs, Bool.or_eq_false_iff, Bool.not_eq_false', List.isEmpty_iff]
      at pending
    obtain ⟨⟨promiseJobs, asyncJobs⟩, genericJobs⟩ := pending
    refine ⟨{ executor with asyncJobs := [] }, ?_⟩
    simp [turn, takeAsyncJobs, asyncJobs, startJobs, isIdle, group, promiseJobs, genericJobs]

end TokioJobExecutor

namespace PromiseWait

variable {Object World Code Future : Type} (engine : JsEngine Object)
  (promiseState : World → PromiseState Object) (program : JobProgram World Code Future)

def Explained (wait : PromiseWait Object World Code Future) : Prop :=
  match wait.phase with
  | .testing => MadrpcContext.awaitPromise engine wait.observed = none
  | .runningJobs tested | .matching tested =>
      MadrpcContext.awaitPromise engine wait.observed = none ∧ tested < MAX_PROMISE_WAIT_MS
  | .returned result => MadrpcContext.awaitPromise engine wait.observed = some result
  | .panicked => True

theorem awaitPromise_early {elapsed : Nat} (early : elapsed < MAX_PROMISE_WAIT_MS)
    (state : PromiseState Object) (later : List (Nat × PromiseState Object)) :
    MadrpcContext.awaitPromise engine ((elapsed, state) :: later) =
      match settled engine state with
      | none => MadrpcContext.awaitPromise engine later
      | some result => some result := by
  cases state <;> exact if_neg (Nat.not_le_of_lt early)

theorem awaitPromise_append (before after : List (Nat × PromiseState Object))
    (pending : MadrpcContext.awaitPromise engine before = none) :
    MadrpcContext.awaitPromise engine (before ++ after) =
      MadrpcContext.awaitPromise engine after := by
  induction before with
  | nil => rfl
  | cons seen rest ih =>
      obtain ⟨elapsed, state⟩ := seen
      have early : elapsed < MAX_PROMISE_WAIT_MS := by
        refine Nat.lt_of_not_le fun late => ?_
        rw [show MadrpcContext.awaitPromise engine ((elapsed, state) :: rest) = some _ from
          if_pos late] at pending
        cases pending
      rw [awaitPromise_early engine early] at pending
      rw [List.cons_append, awaitPromise_early engine early]
      cases state with
      | pending => exact ih pending
      | fulfilled value => cases pending
      | rejected reason => cases pending

theorem step_explained (wait : PromiseWait Object World Code Future) (input : WaitInput)
    (explained : wait.Explained engine) :
    ((polling engine promiseState program).step wait input).1.Explained engine := by
  obtain ⟨elapsed, phase, executor, observed⟩ := wait
  cases phase with
  | testing =>
      simp only [polling]
      split
      next late =>
        exact (awaitPromise_append engine observed _ explained).trans (if_pos late)
      next early => exact ⟨explained, Nat.lt_of_not_le early⟩
  | runningJobs tested =>
      simp only [polling]
      split
      · exact explained
      · exact explained
      · trivial
  | matching tested =>
      obtain ⟨pending, early⟩ := explained
      have seen := (awaitPromise_append engine observed _ pending).trans
        (awaitPromise_early engine early (promiseState executor.world) [])
      simp only [polling]
      split
      next unsettled =>
        rw [unsettled] at seen
        exact seen
      next result settled =>
        rw [settled] at seen
        exact seen
  | returned result => exact explained
  | panicked => trivial

theorem wait_explained (executor : TokioJobExecutor World Code Future) (inputs : List WaitInput) :
    ((polling engine promiseState program).run (start executor) inputs).Explained engine :=
  (polling engine promiseState program).run_invariant (Explained engine)
    (step_explained engine promiseState program) (start executor) inputs rfl

end PromiseWait

end MadRpc
