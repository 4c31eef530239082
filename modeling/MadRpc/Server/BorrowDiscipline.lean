import MadRpc.Server.JobExecutor
import MadRpc.Shared.Machine

set_option autoImplicit false

/-!
# The borrows of the queues while jobs run

A step runs the code of one job, or polls the group; the code may enqueue jobs of any kind.
-/

namespace MadRpc

variable {World Code Future : Type}

def Job.kind : Job Code → Option JobKind
  | .promiseJob _ => some .promise
  | .asyncJob _ => some .async
  | .genericJob _ => some .generic
  | .unsupported => none

inductive ExecutorPoint (Code : Type) where
  -- In the `for`, with the jobs not yet started; the borrow of the async jobs lasts.
  | starting (jobs : List (Nat × Code))
  | polling
  -- In the `if let`; the borrow of the generic jobs lasts until the call has returned.
  | callingGeneric
  -- The promise jobs are taken in a `let`, and their borrow is over.
  | callingPromises (jobs : List (Nat × Code))
  | returned
  | panicked

structure ExecutorRun (World Code Future : Type) where
  executor : TokioJobExecutor World Code Future
  point : ExecutorPoint Code

namespace ExecutorRun

/-- The start of a turn, where the async jobs are taken. -/
def begin (executor : TokioJobExecutor World Code Future) : ExecutorRun World Code Future :=
  ⟨{ executor with asyncJobs := [] }, .starting executor.asyncJobs⟩

def proceed (run : ExecutorRun World Code Future) (point : ExecutorPoint Code) :
    Option (TokioJobExecutor World Code Future) → ExecutorRun World Code Future
  | some executor => ⟨executor, point⟩
  | none => { run with point := .panicked }

variable (program : JobProgram World Code Future)

/-- `polls` is the order in which a poll of the group finds its futures. -/
def step (run : ExecutorRun World Code Future) (polls : List Nat) : ExecutorRun World Code Future :=
  match run.point with
  | .starting (job :: rest) =>
      run.proceed (.starting rest) (TokioJobExecutor.startJobs program [job] run.executor)
  | .starting [] =>
      { run with point := if run.executor.isIdle then .returned else .polling }
  | .polling => run.proceed .callingGeneric (TokioJobExecutor.pollNext program polls run.executor)
  | .callingGeneric =>
      match run.executor.runGeneric program with
      | some executor =>
          ⟨{ executor with promiseJobs := [] }, .callingPromises executor.promiseJobs⟩
      | none => { run with point := .panicked }
  | .callingPromises (job :: rest) =>
      run.proceed (.callingPromises rest) (TokioJobExecutor.runPromises program [job] run.executor)
  | .callingPromises [] =>
      begin { run.executor with world := program.clearKeptObjects run.executor.world }
  | .returned | .panicked => run

def machine : Machine (ExecutorRun World Code Future) (List Nat) Unit where
  step run polls := (run.step program polls, ())

def NotPanicked (run : ExecutorRun World Code Future) : Prop :=
  match run.point with
  | .panicked => False
  | _ => True

/-- The async job that is started enqueues no async job, and the generic job that is called no
generic job. -/
def Apart (run : ExecutorRun World Code Future) : Prop :=
  match run.point, run.executor.genericJobs with
  | .starting ((_, code) :: _), _ =>
      ∀ job ∈ (program.start code run.executor.world).enqueued, job.kind ≠ some .async
  | .callingGeneric, (_, code) :: _ =>
      ∀ job ∈ (program.call code run.executor.world).enqueued, job.kind ≠ some .generic
  | _, _ => True

end ExecutorRun

namespace TokioJobExecutor

/-! ## When an enqueued job meets a borrow -/

theorem enqueueJob_isSome_iff (borrowed : Option JobKind) (job : Job Code)
    (executor : TokioJobExecutor World Code Future) :
    (executor.enqueueJob borrowed job).isSome ↔ borrowed = none ∨ job.kind ≠ borrowed := by
  have pushed (kind : JobKind) (after : TokioJobExecutor World Code Future) :
      (if borrowed = some kind then none else some after).isSome ↔
        borrowed = none ∨ some kind ≠ borrowed := by
    by_cases own : borrowed = some kind
    · simp [own]
    · simp [own, Ne.symm own]
  cases job with
  | promiseJob code => exact pushed .promise _
  | asyncJob code => exact pushed .async _
  | genericJob code => exact pushed .generic _
  | unsupported => cases borrowed <;> simp [enqueueJob, Job.kind]

theorem enqueueAll_isSome_iff (borrowed : Option JobKind) (jobs : List (Job Code))
    (executor : TokioJobExecutor World Code Future) :
    (executor.enqueueAll borrowed jobs).isSome ↔
      ∀ job ∈ jobs, borrowed = none ∨ job.kind ≠ borrowed := by
  induction jobs generalizing executor with
  | nil => exact iff_of_true rfl fun _ member => absurd member List.not_mem_nil
  | cons job rest ih =>
      rw [enqueueAll, List.forall_mem_cons, ← enqueueJob_isSome_iff borrowed job executor]
      cases executor.enqueueJob borrowed job with
      | none => simp
      | some after => simpa using ih after

theorem enqueueAll_unborrowed (jobs : List (Job Code))
    (executor : TokioJobExecutor World Code Future) : (executor.enqueueAll none jobs).isSome :=
  (enqueueAll_isSome_iff none jobs executor).mpr fun _ _ => .inl rfl

variable (program : JobProgram World Code Future)

theorem startJob_isSome_iff (ticket : Nat) (code : Code)
    (executor : TokioJobExecutor World Code Future) :
    (startJobs program [(ticket, code)] executor).isSome ↔
      ∀ job ∈ (program.start code executor.world).enqueued, job.kind ≠ some .async := by
  have enqueued := enqueueAll_isSome_iff (some .async) (program.start code executor.world).enqueued
    { executor with world := (program.start code executor.world).world }
  simp only [reduceCtorEq, false_or] at enqueued
  rw [← enqueued]
  simp only [startJobs, Option.isSome_bind, Option.isSome_some, Option.any_true]

theorem runGeneric_isSome_iff {ticket : Nat} {code : Code} {rest : List (Nat × Code)}
    {executor : TokioJobExecutor World Code Future}
    (first : executor.genericJobs = (ticket, code) :: rest) :
    (executor.runGeneric program).isSome ↔
      ∀ job ∈ (program.call code executor.world).enqueued, job.kind ≠ some .generic := by
  rw [runGeneric, first, Option.isSome_map, enqueueAll_isSome_iff]
  simp only [reduceCtorEq, false_or]

theorem runPromises_isSome (jobs : List (Nat × Code))
    (executor : TokioJobExecutor World Code Future) :
    (runPromises program jobs executor).isSome := by
  induction jobs generalizing executor with
  | nil => rfl
  | cons job rest ih =>
      obtain ⟨after, enqueued⟩ := Option.isSome_iff_exists.mp (enqueueAll_unborrowed
        (program.call job.2 executor.world).enqueued
        ({ executor with world := (program.call job.2 executor.world).world }.record
          (.executed .promise job.1)))
      simp only [runPromises, enqueued, Option.bind_some]
      exact ih _

theorem pollNext_isSome (polls : List Nat) (executor : TokioJobExecutor World Code Future) :
    (pollNext program polls executor).isSome := by
  induction polls generalizing executor with
  | nil => rfl
  | cons place rest ih =>
      rw [pollNext]
      split
      next => exact ih executor
      next ticket future found =>
        obtain ⟨after, enqueued⟩ := Option.isSome_iff_exists.mp (enqueueAll_unborrowed
          (program.poll future executor.world).enqueued
          { executor with world := (program.poll future executor.world).world })
        simp only [enqueued, Option.bind_some]
        split
        next => exact ih _
        next => rfl

end TokioJobExecutor

namespace ExecutorRun

variable (program : JobProgram World Code Future)

theorem proceed_notPanicked_iff (run : ExecutorRun World Code Future)
    (point : ExecutorPoint Code) (result : Option (TokioJobExecutor World Code Future))
    (fine : ∀ executor : TokioJobExecutor World Code Future, NotPanicked ⟨executor, point⟩) :
    NotPanicked (run.proceed point result) ↔ result.isSome := by
  cases result with
  | none => exact iff_of_false id Bool.false_ne_true
  | some executor => exact iff_of_true (fine executor) rfl

theorem step_notPanicked_iff (run : ExecutorRun World Code Future) (polls : List Nat)
    (fine : NotPanicked run) : NotPanicked (run.step program polls) ↔ Apart program run := by
  obtain ⟨executor, point⟩ := run
  cases point with
  | starting jobs =>
      cases jobs with
      | nil =>
          refine iff_of_true ?_ trivial
          rw [step]
          cases executor.isIdle <;> trivial
      | cons job rest =>
          obtain ⟨ticket, code⟩ := job
          exact (proceed_notPanicked_iff _ (.starting rest) _ fun _ => trivial).trans
            (TokioJobExecutor.startJob_isSome_iff program ticket code executor)
  | polling =>
      exact iff_of_true ((proceed_notPanicked_iff _ .callingGeneric _ fun _ => trivial).mpr
        (TokioJobExecutor.pollNext_isSome program polls executor)) trivial
  | callingGeneric =>
      have called : NotPanicked (step program ⟨executor, .callingGeneric⟩ polls) ↔
          (executor.runGeneric program).isSome := by
        rw [step]
        cases executor.runGeneric program with
        | none => exact iff_of_false id Bool.false_ne_true
        | some after => exact iff_of_true trivial rfl
      rw [called]
      cases first : executor.genericJobs with
      | nil =>
          refine iff_of_true ?_ ?_
          · rw [TokioJobExecutor.runGeneric, first]
            rfl
          · simp only [Apart, first]
      | cons job rest =>
          rw [TokioJobExecutor.runGeneric_isSome_iff program first]
          simp only [Apart, first]
  | callingPromises jobs =>
      refine iff_of_true ?_ trivial
      cases jobs with
      | nil => trivial
      | cons job rest =>
          exact (proceed_notPanicked_iff _ (.callingPromises rest) _ fun _ => trivial).mpr
            (TokioJobExecutor.runPromises_isSome program [job] executor)
  | returned => exact iff_of_true trivial trivial
  | panicked => exact absurd fine id

theorem throughout_notPanicked_iff (run : ExecutorRun World Code Future) (fine : NotPanicked run)
    (inputs : List (List Nat)) :
    (machine program).Throughout NotPanicked run inputs ↔
      (machine program).EachStep (fun run _ => Apart program run) run inputs :=
  (machine program).throughout_iff_eachStep (fun _ => True) NotPanicked _ (fun _ _ _ => trivial)
    (fun run polls _ fine => step_notPanicked_iff program run polls fine) run inputs trivial fine

/-! ## The turns of the loop -/

def Reaches (run after : ExecutorRun World Code Future) : Prop :=
  ∃ inputs, (machine program).run run inputs = after

def Arrives (run : ExecutorRun World Code Future)
    (result : Option (TokioJobExecutor World Code Future))
    (next : TokioJobExecutor World Code Future → ExecutorRun World Code Future) : Prop :=
  match result with
  | some executor => Reaches program run (next executor)
  | none => ∃ stuck, Reaches program run stuck ∧ ¬ NotPanicked stuck

variable {program}

theorem Reaches.trans {run between after : ExecutorRun World Code Future}
    (first : Reaches program run between) (second : Reaches program between after) :
    Reaches program run after := by
  obtain ⟨before, rfl⟩ := first
  obtain ⟨rest, rfl⟩ := second
  exact ⟨before ++ rest, (machine program).run_append run before rest⟩

theorem reaches_step (run : ExecutorRun World Code Future) (polls : List Nat) :
    Reaches program run (run.step program polls) := ⟨[polls], rfl⟩

theorem Reaches.arrives {run between : ExecutorRun World Code Future}
    {result : Option (TokioJobExecutor World Code Future)}
    {next : TokioJobExecutor World Code Future → ExecutorRun World Code Future}
    (reaches : Reaches program run between) (arrives : Arrives program between result next) :
    Arrives program run result next := by
  cases result with
  | some executor => exact reaches.trans arrives
  | none =>
      obtain ⟨stuck, reached, panicked⟩ := arrives
      exact ⟨stuck, reaches.trans reached, panicked⟩

theorem Arrives.bind {run : ExecutorRun World Code Future}
    {result : Option (TokioJobExecutor World Code Future)}
    {next after : TokioJobExecutor World Code Future → ExecutorRun World Code Future}
    {rest : TokioJobExecutor World Code Future → Option (TokioJobExecutor World Code Future)}
    (arrives : Arrives program run result next)
    (others : ∀ executor, Arrives program (next executor) (rest executor) after) :
    Arrives program run (result.bind rest) after := by
  cases result with
  | some executor => exact Reaches.arrives arrives (others executor)
  | none => exact arrives

theorem Arrives.map {run : ExecutorRun World Code Future}
    {result : Option (TokioJobExecutor World Code Future)}
    {next after : TokioJobExecutor World Code Future → ExecutorRun World Code Future}
    {finish : TokioJobExecutor World Code Future → TokioJobExecutor World Code Future}
    (arrives : Arrives program run result next)
    (last : ∀ executor, Reaches program (next executor) (after (finish executor))) :
    Arrives program run (result.map finish) after := by
  cases result with
  | some executor => exact Reaches.trans arrives (last executor)
  | none => exact arrives

variable (program)

theorem proceed_arrives (run : ExecutorRun World Code Future) (point : ExecutorPoint Code)
    (result : Option (TokioJobExecutor World Code Future)) (polls : List Nat)
    (same : run.step program polls = run.proceed point result) :
    Arrives program run result fun executor => ⟨executor, point⟩ := by
  have reached := @reaches_step _ _ _ program run polls
  rw [same] at reached
  cases result with
  | some executor => exact reached
  | none => exact ⟨_, reached, id⟩

theorem startJobs_arrives (jobs : List (Nat × Code))
    (executor : TokioJobExecutor World Code Future) :
    Arrives program ⟨executor, .starting jobs⟩ (TokioJobExecutor.startJobs program jobs executor)
      fun executor => ⟨executor, .starting []⟩ := by
  induction jobs generalizing executor with
  | nil => exact ⟨[], rfl⟩
  | cons job rest ih =>
      have split : TokioJobExecutor.startJobs program (job :: rest) executor =
          (TokioJobExecutor.startJobs program [job] executor).bind
            (TokioJobExecutor.startJobs program rest) := by
        simp only [TokioJobExecutor.startJobs, Option.bind_assoc, Option.bind_some]
      rw [split]
      exact (proceed_arrives program _ (.starting rest) _ [] rfl).bind ih

theorem runPromises_arrives (jobs : List (Nat × Code))
    (executor : TokioJobExecutor World Code Future) :
    Arrives program ⟨executor, .callingPromises jobs⟩
      (TokioJobExecutor.runPromises program jobs executor)
      fun executor => ⟨executor, .callingPromises []⟩ := by
  induction jobs generalizing executor with
  | nil => exact ⟨[], rfl⟩
  | cons job rest ih =>
      have split : TokioJobExecutor.runPromises program (job :: rest) executor =
          (TokioJobExecutor.runPromises program [job] executor).bind
            (TokioJobExecutor.runPromises program rest) := by
        simp only [TokioJobExecutor.runPromises, Option.bind_assoc, Option.bind_some]
      rw [split]
      exact (proceed_arrives program _ (.callingPromises rest) _ [] rfl).bind ih

theorem runGeneric_arrives (executor : TokioJobExecutor World Code Future) :
    Arrives program ⟨executor, .callingGeneric⟩ (executor.runGeneric program) fun executor =>
      ⟨{ executor with promiseJobs := [] }, .callingPromises executor.promiseJobs⟩ := by
  have reached : Reaches program ⟨executor, .callingGeneric⟩ _ := reaches_step _ []
  rw [step] at reached
  cases called : executor.runGeneric program with
  | some after =>
      simp only [called] at reached
      exact reached
  | none =>
      simp only [called] at reached
      exact ⟨_, reached, id⟩

theorem drainJobs_arrives (executor : TokioJobExecutor World Code Future) :
    Arrives program ⟨executor, .callingGeneric⟩ (executor.drainJobs program) begin :=
  (runGeneric_arrives program executor).bind fun _ =>
    (runPromises_arrives program _ _).map fun _ => reaches_step _ []

def Shows (after : ExecutorRun World Code Future) :
    TokioJobExecutor.Progress World Code Future → Prop
  | .returned executor => after = ⟨executor, .returned⟩
  | .running executor => after = begin executor
  | .panicked => ¬ NotPanicked after

theorem turn_shown (polls : List Nat) (executor : TokioJobExecutor World Code Future) :
    ∃ after, Reaches program (begin executor) after ∧
      after.Shows (executor.turn program polls) := by
  have taken := startJobs_arrives program executor.asyncJobs { executor with asyncJobs := [] }
  unfold TokioJobExecutor.turn TokioJobExecutor.takeAsyncJobs
  cases started : TokioJobExecutor.startJobs program executor.asyncJobs
      { executor with asyncJobs := [] } with
  | none =>
      rw [started] at taken
      exact taken
  | some next =>
      rw [started] at taken
      have reached : Reaches program (begin executor)
          ⟨next, if next.isIdle then .returned else .polling⟩ :=
        Reaches.trans taken (reaches_step ⟨next, .starting []⟩ [])
      cases idle : next.isIdle with
      | true =>
          rw [idle] at reached
          exact ⟨_, reached, by simp only [idle, if_true, Shows]⟩
      | false =>
          rw [idle] at reached
          have ended := Reaches.arrives reached
            ((proceed_arrives program ⟨next, .polling⟩ .callingGeneric _ polls rfl).bind
              (drainJobs_arrives program))
          simp only [idle, Bool.false_eq_true, if_false]
          cases drained : (TokioJobExecutor.pollNext program polls next).bind
              (TokioJobExecutor.drainJobs program) with
          | none =>
              rw [drained] at ended
              exact ended
          | some after =>
              rw [drained] at ended
              exact ⟨begin after, ended, rfl⟩

theorem loop_shown (turns : List (List Nat)) (executor : TokioJobExecutor World Code Future) :
    ∃ after, Reaches program (begin executor) after ∧
      after.Shows (TokioJobExecutor.loop program turns executor) := by
  induction turns generalizing executor with
  | nil => exact ⟨_, ⟨[], rfl⟩, rfl⟩
  | cons polls rest ih =>
      obtain ⟨between, reached, shown⟩ := turn_shown program polls executor
      rw [TokioJobExecutor.loop]
      split
      next next running =>
        rw [running] at shown
        obtain rfl : between = begin next := shown
        obtain ⟨after, reached', shown'⟩ := ih next
        exact ⟨after, reached.trans reached', shown'⟩
      next => exact ⟨between, reached, shown⟩

theorem runJobsAsync_not_panicked (executor : TokioJobExecutor World Code Future)
    (apart : ∀ inputs, (machine program).EachStep (fun run _ => Apart program run)
      (begin { executor with group := [] }) inputs)
    (turns : List (List Nat)) : executor.runJobsAsync program turns ≠ .panicked := by
  intro panicked
  obtain ⟨after, ⟨inputs, rfl⟩, shown⟩ := loop_shown program turns { executor with group := [] }
  have fine := (throughout_notPanicked_iff program (begin _) trivial inputs).mpr (apart inputs)
  rw [show TokioJobExecutor.loop program turns { executor with group := [] } = .panicked
    from panicked] at shown
  exact shown fine.last

/-- For any jobs, whatever was enqueued before, and as far as the run has gone. -/
theorem borrow_discipline_iff (executor : TokioJobExecutor World Code Future)
    (inputs : List (List Nat)) :
    (machine program).Throughout NotPanicked (begin { executor with group := [] }) inputs ↔
      (machine program).EachStep (fun run _ => Apart program run)
        (begin { executor with group := [] }) inputs :=
  throughout_notPanicked_iff program (begin _) trivial inputs

/-! ## Jobs that enqueue jobs of their own kind -/

namespace Reentrant

/-- Every job that is called enqueues `again`. The start of an async job runs none of its body,
and enqueues nothing. -/
def jobs (again : Job Unit) : JobProgram Unit Unit Unit where
  call _ world := { world := world, enqueued := [again], result := .ok () }
  start _ world := { world := world, enqueued := [], result := () }
  poll _ world := { world := world, enqueued := [], result := .ready (.ok ()) }
  clearKeptObjects world := world

def script (job : Job Unit) : TokioJobExecutor Unit Unit Unit :=
  ((TokioJobExecutor.new ()).enqueueJob none job).getD (.new ())

theorem borrow_discipline_broken :
    ¬ (machine (jobs (.genericJob ()))).Throughout NotPanicked (begin (script (.genericJob ())))
        [[], [], []] ∧
      (machine (jobs (.promiseJob ()))).Throughout NotPanicked (begin (script (.promiseJob ())))
        [[], [], [], []] :=
  ⟨fun throughout => throughout.last, ⟨trivial, trivial, trivial, trivial, trivial⟩⟩

end Reentrant

end ExecutorRun

end MadRpc
