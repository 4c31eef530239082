import Mathlib.Algebra.Ring.Nat
import MadRpc.Server.JobCompleteness
import MadRpc.Server.OnlyRegistered
import MadRpc.Server.PromiseWait

set_option autoImplicit false

namespace MadRpc

namespace PromiseWait

variable {Object World Code Future : Type} (engine : JsEngine Object)
  (promiseState : World → PromiseState Object) (program : JobProgram World Code Future)

def Late (wait : PromiseWait Object World Code Future) (input : WaitInput) : Prop :=
  MAX_PROMISE_WAIT_MS ≤ wait.elapsed + input.passed

def StartsNothing (wait : PromiseWait Object World Code Future) (input : WaitInput) : Prop :=
  Late wait input → ((polling engine promiseState program).step wait input).2 ≠ .iteration

/-- Once the deadline has passed, a pass of `run_jobs_async` finds no job waiting or in flight. -/
def OutOfJobs (wait : PromiseWait Object World Code Future) (input : WaitInput) : Prop :=
  Late wait input → wait.InRunJobs →
    wait.executor.hasPendingJobs = false ∧ wait.executor.group = []

theorem startsNothing_iff (wait : PromiseWait Object World Code Future) (input : WaitInput) :
    StartsNothing engine promiseState program wait input ↔ OutOfJobs wait input := by
  refine imp_congr_right fun late => ?_
  obtain ⟨elapsed, phase, executor, observed⟩ := wait
  cases phase with
  | testing =>
      have passed : MAX_PROMISE_WAIT_MS ≤ elapsed + input.passed := late
      simp [polling, InRunJobs, passed]
  | runningJobs tested =>
      simp only [InRunJobs, forall_const]
      rw [← executor.turn_returned_iff program input.polls]
      cases turn : executor.turn program input.polls <;> simp [polling, turn]
  | matching tested =>
      cases settled : settled engine (promiseState executor.world) <;>
        simp [polling, InRunJobs, settled]
  | returned result => simp [polling, InRunJobs]
  | panicked => simp [polling, InRunJobs]

def left (wait : PromiseWait Object World Code Future) : Nat :=
  match wait.phase with
  | .returned _ | .panicked => 0
  | .testing => 1
  | .matching _ => 2
  | .runningJobs _ => 3

theorem ended_of_left {wait : PromiseWait Object World Code Future} (none' : wait.left = 0) :
    wait.Ended := by
  obtain ⟨elapsed, phase, executor, observed⟩ := wait
  cases phase with
  | returned _ | panicked => trivial
  | testing | matching _ | runningJobs _ => cases none'

theorem step_elapsed (wait : PromiseWait Object World Code Future) (input : WaitInput) :
    wait.elapsed + input.passed ≤
      ((polling engine promiseState program).step wait input).1.elapsed := by
  obtain ⟨elapsed, phase, executor, observed⟩ := wait
  cases phase with
  | testing =>
      simp only [polling]
      split <;> exact Nat.le_refl _
  | runningJobs tested =>
      simp only [polling]
      split <;> exact Nat.le_refl _
  | matching tested =>
      simp only [polling]
      split
      · exact Nat.le_add_right _ _
      · exact Nat.le_refl _
  | returned result => exact Nat.le_refl _
  | panicked => exact Nat.le_refl _

theorem step_left (wait : PromiseWait Object World Code Future) (input : WaitInput)
    (late : Late wait input) (out : OutOfJobs wait input) :
    ((polling engine promiseState program).step wait input).1.left ≤ wait.left - 1 := by
  have out := out late
  obtain ⟨elapsed, phase, executor, observed⟩ := wait
  cases phase with
  | testing => simp [polling, left, show MAX_PROMISE_WAIT_MS ≤ elapsed + input.passed from late]
  | runningJobs tested =>
      obtain ⟨after, returned⟩ :=
        (executor.turn_returned_iff program input.polls).mpr (out trivial)
      simp [polling, left, returned]
  | matching tested =>
      cases settled : settled engine (promiseState executor.world) <;>
        simp [polling, left, settled]
  | returned result => exact Nat.le_refl _
  | panicked => exact Nat.le_refl _

theorem run_left (wait : PromiseWait Object World Code Future) (inputs : List WaitInput)
    (late : MAX_PROMISE_WAIT_MS ≤ wait.elapsed)
    (out : (polling engine promiseState program).EachStep OutOfJobs wait inputs) :
    ((polling engine promiseState program).run wait inputs).left ≤ wait.left - inputs.length := by
  induction inputs generalizing wait with
  | nil => exact Nat.le_refl _
  | cons input rest ih =>
      have now : Late wait input := Nat.le_trans late (Nat.le_add_right _ _)
      have step := step_left engine promiseState program wait input now out.1
      have later := Nat.le_trans now (step_elapsed engine promiseState program wait input)
      have rest' := ih _ later out.2
      rw [Machine.run_cons, List.length_cons]
      omega

structure KeepsDeadline (executor : TokioJobExecutor World Code Future)
    (inputs : List WaitInput) : Prop where
  startsNothing :
    (polling engine promiseState program).EachStep (StartsNothing engine promiseState program)
      (start executor) inputs
  -- The empty last pass of `run_jobs_async`, the look at the promise and the test.
  onlyReturns : ∀ before after, inputs = before ++ after → 3 ≤ after.length →
    MAX_PROMISE_WAIT_MS ≤
        ((polling engine promiseState program).run (start executor) before).elapsed →
      ((polling engine promiseState program).run (start executor) inputs).Ended
  -- What is returned is the timeout or what the promise has settled to.
  explained : ((polling engine promiseState program).run (start executor) inputs).Explained engine

theorem promise_deadline (executor : TokioJobExecutor World Code Future)
    (inputs : List WaitInput) :
    KeepsDeadline engine promiseState program executor inputs ↔
      (polling engine promiseState program).EachStep OutOfJobs (start executor) inputs := by
  have each : (polling engine promiseState program).EachStep
        (StartsNothing engine promiseState program) (start executor) inputs ↔
      (polling engine promiseState program).EachStep OutOfJobs (start executor) inputs :=
    (polling engine promiseState program).eachStep_congr
      (startsNothing_iff engine promiseState program) _ _
  constructor
  · exact fun keeps => each.mp keeps.startsNothing
  · intro out
    refine ⟨each.mpr out, ?_, wait_explained engine promiseState program executor inputs⟩
    rintro before after rfl three late
    have out := ((polling engine promiseState program).eachStep_append _ _ _ _).mp out
    have bound := run_left engine promiseState program _ after late out.2
    rw [Machine.run_append]
    refine ended_of_left (Nat.eq_zero_of_le_zero (Nat.le_trans bound ?_))
    generalize (polling engine promiseState program).run (start executor) before = wait
    have most : wait.left ≤ 3 := by
      obtain ⟨elapsed, phase, executor, observed⟩ := wait
      cases phase <;> simp [left]
    omega

/-! ## When the jobs run out in time -/

theorem turn_of_idle {executor : TokioJobExecutor World Code Future}
    (idle : executor.hasPendingJobs = false ∧ executor.group = []) (polls : List Nat) :
    executor.turn program polls = .returned executor := by
  obtain ⟨world, promiseJobs, asyncJobs, genericJobs, group, tickets, events, logged⟩ := executor
  obtain ⟨pending, rfl⟩ := idle
  simp only [TokioJobExecutor.hasPendingJobs, Bool.or_eq_false_iff, Bool.not_eq_false',
    List.isEmpty_iff] at pending
  obtain ⟨⟨rfl, rfl⟩, rfl⟩ := pending
  rfl

def Idle (wait : PromiseWait Object World Code Future) : Prop :=
  wait.executor.hasPendingJobs = false ∧ wait.executor.group = []

theorem step_idle (wait : PromiseWait Object World Code Future) (input : WaitInput)
    (idle : wait.Idle) : ((polling engine promiseState program).step wait input).1.Idle := by
  obtain ⟨elapsed, phase, executor, observed⟩ := wait
  cases phase with
  | testing =>
      simp only [polling]
      split
      next => exact idle
      next => exact ⟨idle.1, rfl⟩
  | runningJobs tested =>
      simp only [polling, turn_of_idle program idle]
      exact idle
  | matching tested =>
      simp only [polling]
      split <;> exact idle
  | returned result => exact idle
  | panicked => exact idle

theorem idle_outOfJobs (wait : PromiseWait Object World Code Future) (idle : wait.Idle)
    (inputs : List WaitInput) :
    (polling engine promiseState program).EachStep OutOfJobs wait inputs :=
  (polling engine promiseState program).eachStep_of_invariant Idle (fun _ _ => True) OutOfJobs
    (fun wait input idle _ => step_idle engine promiseState program wait input idle)
    (fun _ _ idle _ _ _ => idle) wait inputs idle
    ((polling engine promiseState program).eachStep_of_forall _ _ _ fun _ _ => trivial)

section

variable {engine promiseState program} {executor done : TokioJobExecutor World Code Future}
  {tested elapsed : Nat} {observed : List (Nat × PromiseState Object)}

theorem step_running {input : WaitInput} {after : TokioJobExecutor World Code Future}
    (turned : executor.turn program input.polls = .running after) :
    ((polling engine promiseState program).step
      ⟨elapsed, .runningJobs tested, executor, observed⟩ input).1 =
        ⟨elapsed + input.passed, .runningJobs tested, after, observed⟩ := by
  simp only [polling, turned]

theorem loop_cons {polls : List Nat} {rest : List (List Nat)}
    (ran : executor.loop program (polls :: rest) = .running done) :
    ∃ after, executor.turn program polls = .running after ∧
      after.loop program rest = .running done := by
  rw [TokioJobExecutor.loop] at ran
  cases turned : executor.turn program polls with
  | returned | panicked => simp [turned] at ran
  | running after => exact ⟨after, rfl, by simpa only [turned] using ran⟩

theorem passes_run (passes : List WaitInput)
    (ran : executor.loop program (passes.map WaitInput.polls) = .running done) :
    (polling engine promiseState program).run
        ⟨elapsed, .runningJobs tested, executor, observed⟩ passes =
      ⟨elapsed + (passes.map WaitInput.passed).sum, .runningJobs tested, done, observed⟩ := by
  induction passes generalizing elapsed executor with
  | nil =>
      cases ran
      rfl
  | cons input rest ih =>
      obtain ⟨after, turned, others⟩ := loop_cons ran
      rw [Machine.run_cons, step_running turned, ih others, List.map_cons, List.sum_cons,
        Nat.add_assoc]

theorem passes_outOfJobs (passes : List WaitInput) (early : elapsed < MAX_PROMISE_WAIT_MS)
    (ran : executor.loop program (passes.map WaitInput.polls) = .running done) :
    (polling engine promiseState program).EachStep OutOfJobs
        ⟨elapsed, .runningJobs tested, executor, observed⟩ passes ↔
      elapsed + (passes.map WaitInput.passed).sum < MAX_PROMISE_WAIT_MS := by
  induction passes generalizing elapsed executor with
  | nil => exact iff_of_true trivial early
  | cons input rest ih =>
      obtain ⟨after, turned, others⟩ := loop_cons ran
      have busy : ¬ (executor.hasPendingJobs = false ∧ executor.group = []) := by
        intro idle
        rw [turn_of_idle program idle] at turned
        cases turned
      rw [Machine.EachStep, step_running turned, List.map_cons, List.sum_cons, ← Nat.add_assoc]
      by_cases now : elapsed + input.passed < MAX_PROMISE_WAIT_MS
      · rw [ih now others]
        exact and_iff_right fun late => absurd now (Nat.not_lt.mpr late)
      · refine iff_of_false (fun steps => busy (steps.1 (Nat.not_lt.mp now) trivial)) ?_
        omega

/-- For jobs that, with the futures ready when the polls find them so, are done after these passes:
the condition is that the last pass that has a job to run is made before the deadline. -/
theorem outOfJobs_iff_in_time {last : TokioJobExecutor World Code Future}
    {test final : WaitInput} {passes : List WaitInput} (later : List WaitInput)
    (early : test.passed < MAX_PROMISE_WAIT_MS)
    (ran : executor.runJobsAsync program (passes.map WaitInput.polls) = .running done)
    (ended : done.turn program final.polls = .returned last) :
    (polling engine promiseState program).EachStep OutOfJobs (start executor)
        (test :: (passes ++ final :: later)) ↔
      test.passed + (passes.map WaitInput.passed).sum < MAX_PROMISE_WAIT_MS := by
  have entered : ((polling engine promiseState program).step (start executor) test).1 =
      ⟨test.passed, .runningJobs test.passed, { executor with group := [] }, []⟩ := by
    simp only [polling, start, Nat.zero_add, if_neg (Nat.not_le.mpr early)]
  have idle := (done.turn_returned_iff program final.polls).mp ⟨last, ended⟩
  rw [Machine.EachStep, entered, Machine.eachStep_append, passes_outOfJobs passes early ran,
    passes_run passes ran]
  refine (and_iff_right fun _ inside => inside.elim).trans (and_iff_left ?_)
  exact idle_outOfJobs engine promiseState program
    ⟨_, .runningJobs test.passed, done, []⟩ idle (final :: later)

end

end PromiseWait

/-! ## Async jobs that never complete -/

namespace TokioJobExecutor

variable {World Code Future : Type} (program : JobProgram World Code Future)

def NeverReady : Prop :=
  ∀ future world, ∃ later, (program.poll future world).result = .pending later

theorem logError_inFlight (source : String) (result : Except String Unit)
    (executor : TokioJobExecutor World Code Future) :
    (executor.logError source result).inFlight = executor.inFlight :=
  (logError_same source result executor).inFlight

theorem enqueueAll_inFlight (borrowed : Option JobKind) (jobs : List (Job Code))
    {executor after : TokioJobExecutor World Code Future}
    (enqueued : executor.enqueueAll borrowed jobs = some after) :
    after.inFlight = executor.inFlight :=
  congrArg (List.map Prod.fst) (enqueueAll_group borrowed jobs enqueued)

theorem pollNext_inFlight (never : NeverReady program) (polls : List Nat)
    {executor after : TokioJobExecutor World Code Future}
    (polled : pollNext program polls executor = some after) :
    after.inFlight = executor.inFlight := by
  induction polls generalizing executor with
  | nil =>
      cases polled
      rfl
  | cons place rest ih =>
      unfold pollNext at polled
      split at polled
      next => exact ih polled
      next ticket future found =>
        obtain ⟨called, enqueued, polled⟩ := Option.bind_eq_some_iff.mp polled
        obtain ⟨later, pending⟩ := never future executor.world
        have there : called.group[place]? = some (ticket, future) := by
          rw [enqueueAll_group none _ enqueued]
          exact found
        simp only [pending] at polled
        have kept := enqueueAll_inFlight none _ enqueued
        rw [ih polled]
        exact (set_inFlight there later).trans kept

theorem runPromises_inFlight (jobs : List (Nat × Code))
    {executor after : TokioJobExecutor World Code Future}
    (ran : runPromises program jobs executor = some after) :
    after.inFlight = executor.inFlight := by
  induction jobs generalizing executor with
  | nil =>
      cases ran
      rfl
  | cons job rest ih =>
      obtain ⟨called, enqueued, others⟩ := Option.bind_eq_some_iff.mp ran
      have kept := enqueueAll_inFlight none _ enqueued
      rw [ih others, logError_inFlight]
      exact kept

theorem drainJobs_inFlight {executor after : TokioJobExecutor World Code Future}
    (drained : executor.drainJobs program = some after) :
    after.inFlight = executor.inFlight := by
  obtain ⟨next, generic, promises⟩ := Option.bind_eq_some_iff.mp drained
  obtain ⟨last, ran, rfl⟩ := Option.map_eq_some_iff.mp promises
  have kept : next.inFlight = executor.inFlight := by
    unfold runGeneric at generic
    split at generic
    next =>
      cases generic
      rfl
    next =>
      obtain ⟨called, enqueued, rfl⟩ := Option.map_eq_some_iff.mp generic
      have kept := enqueueAll_inFlight (some .generic) _ enqueued
      rw [logError_inFlight]
      exact kept
  exact (runPromises_inFlight program _ ran).trans kept

theorem turn_busy (never : NeverReady program) (polls : List Nat)
    {executor : TokioJobExecutor World Code Future}
    (busy : executor.inFlight ++ executor.waiting .async ≠ []) :
    executor.turn program polls = .panicked ∨
      ∃ after, executor.turn program polls = .running after ∧ after.inFlight ≠ [] := by
  unfold turn
  cases taken : executor.takeAsyncJobs program with
  | none => exact .inl rfl
  | some started =>
      have flight : started.inFlight ≠ [] := by
        rw [startJobs_inFlight program executor.asyncJobs taken]
        exact busy
      have working : started.isIdle = false := by
        have group : started.group ≠ [] := fun empty => flight (by rw [inFlight, empty]; rfl)
        simp [isIdle, group]
      simp only [working, Bool.false_eq_true, if_false]
      cases ran : (pollNext program polls started).bind (drainJobs program) with
      | none => exact .inl rfl
      | some after =>
          obtain ⟨polled, next, drained⟩ := Option.bind_eq_some_iff.mp ran
          refine .inr ⟨after, rfl, ?_⟩
          rw [drainJobs_inFlight program drained, pollNext_inFlight program never polls next]
          exact flight

end TokioJobExecutor

namespace PromiseWait

variable {Object World Code Future : Type} (engine : JsEngine Object)
  (promiseState : World → PromiseState Object) (program : JobProgram World Code Future)

theorem run_busy (never : TokioJobExecutor.NeverReady program)
    (wait : PromiseWait Object World Code Future) (inputs : List WaitInput) {tested : Nat}
    (inside : wait.phase = .runningJobs tested)
    (busy : wait.executor.inFlight ++ wait.executor.waiting .async ≠ []) :
    ((polling engine promiseState program).run wait inputs).phase = .runningJobs tested ∨
      ((polling engine promiseState program).run wait inputs).phase = .panicked := by
  induction inputs generalizing wait with
  | nil => exact .inl inside
  | cons input rest ih =>
      obtain ⟨elapsed, phase, executor, observed⟩ := wait
      simp only at inside
      subst inside
      rcases TokioJobExecutor.turn_busy program never input.polls busy with
        panicked | ⟨after, running, flight⟩
      · right
        have dead : ∀ (inputs : List WaitInput) (wait : PromiseWait Object World Code Future),
            wait.phase = .panicked →
              ((polling engine promiseState program).run wait inputs).phase = .panicked := by
          intro inputs
          induction inputs with
          | nil => exact fun wait ended => ended
          | cons input rest ih =>
              rintro ⟨elapsed, phase, executor, observed⟩ rfl
              exact ih _ rfl
        refine dead rest _ ?_
        simp [polling, panicked]
      · have step : ((polling engine promiseState program).step
            ⟨elapsed, .runningJobs tested, executor, observed⟩ input).1 =
              ⟨elapsed + input.passed, .runningJobs tested, after, observed⟩ := by
          simp [polling, running]
        rw [Machine.run_cons, step]
        exact ih _ rfl fun empty => flight (List.append_eq_nil_iff.mp empty).1

/-- With such a job waiting, the call never returns, however much time passes. -/
theorem never_returns (never : TokioJobExecutor.NeverReady program)
    (executor : TokioJobExecutor World Code Future) (queued : executor.asyncJobs ≠ [])
    (first : WaitInput) (early : first.passed < MAX_PROMISE_WAIT_MS) (inputs : List WaitInput)
    (result : Except MadrpcError Value) :
    ((polling engine promiseState program).run (start executor) (first :: inputs)).phase ≠
      .returned result := by
  have early' : ¬ MAX_PROMISE_WAIT_MS ≤ (start executor :
      PromiseWait Object World Code Future).elapsed + first.passed := by
    simp only [start]
    omega
  have entered : ((polling engine promiseState program).step (start executor) first).1 =
      ⟨0 + first.passed, .runningJobs (0 + first.passed), { executor with group := [] }, []⟩ := by
    simp only [polling, start] at early' ⊢
    rw [if_neg early']
  rw [Machine.run_cons, entered]
  intro returned
  rcases run_busy engine promiseState program never
      ⟨0 + first.passed, .runningJobs (0 + first.passed), { executor with group := [] }, []⟩
      inputs rfl
      (fun empty => queued (List.map_eq_nil_iff.mp (List.append_eq_nil_iff.mp empty).2))
    with inside | panicked
  · cases inside.symm.trans returned
  · cases panicked.symm.trans returned

/-! ## A request that is never answered -/

namespace Unanswered

def jobs : JobProgram Unit Unit Unit where
  call _ world := { world := world, enqueued := [], result := .ok () }
  start _ world := { world := world, enqueued := [], result := () }
  poll future world := { world := world, enqueued := [], result := .pending future }
  clearKeptObjects world := world

def executor : TokioJobExecutor Unit Unit Unit :=
  { (TokioJobExecutor.new ()).issue .async with asyncJobs := [(0, ())] }

theorem deadline_missed :
    ¬ KeepsDeadline MadrpcContext.Greeter.boa (fun _ => .pending) jobs executor
      [⟨0, []⟩, ⟨1, []⟩, ⟨30000, [0]⟩] := by
  intro keeps
  -- The test at 0 ms, the pass that starts the request, and one more pass at 30001 ms.
  obtain ⟨-, -, third, -⟩ := keeps.startsNothing
  exact third (Nat.le_add_left 30000 1) rfl

end Unanswered

end PromiseWait

end MadRpc
