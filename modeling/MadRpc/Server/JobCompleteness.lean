import MadRpc.Server.JobAccounting

set_option autoImplicit false

namespace MadRpc.TokioJobExecutor

variable {World Code Future : Type} (program : JobProgram World Code Future)

theorem runGeneric_accounted {promises asyncs : List Nat}
    {executor after : TokioJobExecutor World Code Future}
    (accounted : Accounted promises asyncs executor)
    (ran : executor.runGeneric program = some after) : Accounted promises asyncs after := by
  unfold runGeneric at ran
  split at ran
  next =>
    cases ran
    exact accounted
  next ticket code rest first =>
    obtain ⟨called, enqueued, rfl⟩ := Option.map_eq_some_iff.mp ran
    have popped := (accounted.ran_generic first).same
      (world_same _ (program.call code executor.world).world)
    exact (enqueueAll_accounted (some .generic) _ popped enqueued).same (logError_same _ _ called)

theorem runPromises_accounted {asyncs : List Nat} (jobs : List (Nat × Code))
    {executor after : TokioJobExecutor World Code Future}
    (accounted : Accounted (jobs.map Prod.fst) asyncs executor)
    (ran : runPromises program jobs executor = some after) : Accounted [] asyncs after := by
  induction jobs generalizing executor with
  | nil =>
      cases ran
      exact accounted
  | cons job rest ih =>
      obtain ⟨ticket, code⟩ := job
      obtain ⟨called, enqueued, others⟩ := Option.bind_eq_some_iff.mp ran
      have taken := accounted.ran_promise.same
        (world_same _ (program.call code executor.world).world)
      have next := enqueueAll_accounted none _ taken enqueued
      exact ih (next.same (logError_same _ _ called)) others

theorem drainJobs_accounted {asyncs : List Nat}
    {executor after : TokioJobExecutor World Code Future}
    (accounted : Accounted [] asyncs executor)
    (drained : executor.drainJobs program = some after) : Accounted [] asyncs after := by
  obtain ⟨next, generic, promises⟩ := Option.bind_eq_some_iff.mp drained
  obtain ⟨last, ran, rfl⟩ := Option.map_eq_some_iff.mp promises
  have between := runGeneric_accounted program accounted generic
  have taken :
      Accounted (next.promiseJobs.map Prod.fst) asyncs { next with promiseJobs := [] } := by
    obtain ⟨promise, generic, async, issued, distinct⟩ := between
    refine ⟨?_, generic, async, issued, distinct⟩
    rw [show waiting .promise { next with promiseJobs := [] } = [] from rfl, List.append_nil]
    exact promise
  exact (runPromises_accounted program _ taken ran).same (world_same last _)

theorem startJobs_accounted {promises : List Nat} (jobs : List (Nat × Code))
    {executor after : TokioJobExecutor World Code Future}
    (accounted : Accounted promises (jobs.map Prod.fst) executor)
    (started : startJobs program jobs executor = some after) :
    Accounted promises [] after ∧ after.waiting .async = executor.waiting .async := by
  induction jobs generalizing executor with
  | nil =>
      cases started
      exact ⟨accounted, rfl⟩
  | cons job rest ih =>
      obtain ⟨ticket, code⟩ := job
      obtain ⟨called, enqueued, others⟩ := Option.bind_eq_some_iff.mp started
      have next := enqueueAll_accounted (some .async) _
        (accounted.same (world_same executor (program.start code executor.world).world)) enqueued
      obtain ⟨final, same⟩ := ih (next.inserted _) others
      have kept := enqueueAll_borrowed .async _ enqueued
      exact ⟨final, same.trans kept⟩

theorem takeAsyncJobs_accounted {executor after : TokioJobExecutor World Code Future}
    (accounted : Accounted [] [] executor) (taken : executor.takeAsyncJobs program = some after) :
    Accounted [] [] after ∧ after.waiting .async = [] := by
  have held : Accounted [] (executor.asyncJobs.map Prod.fst) { executor with asyncJobs := [] } := by
    obtain ⟨promise, generic, async, issued, distinct⟩ := accounted
    refine ⟨promise, generic, ?_, issued, distinct⟩
    rw [show waiting .async { executor with asyncJobs := [] } = [] from rfl, List.append_nil]
    exact async
  exact startJobs_accounted program executor.asyncJobs held taken

theorem set_inFlight {group : List (Nat × Future)} {place ticket : Nat} {future : Future}
    (found : group[place]? = some (ticket, future)) (later : Future) :
    (group.set place (ticket, later)).map Prod.fst = group.map Prod.fst := by
  induction group generalizing place with
  | nil => rfl
  | cons entry rest ih =>
      cases place with
      | zero =>
          cases found
          rfl
      | succ place => exact congrArg (entry.1 :: ·) (ih found)

theorem pollNext_accounted (polls : List Nat) {promises asyncs : List Nat}
    {executor after : TokioJobExecutor World Code Future}
    (accounted : Accounted promises asyncs executor)
    (polled : pollNext program polls executor = some after) : Accounted promises asyncs after := by
  induction polls generalizing executor with
  | nil =>
      cases polled
      exact accounted
  | cons place rest ih =>
      unfold pollNext at polled
      split at polled
      next => exact ih accounted polled
      next ticket future found =>
        obtain ⟨called, enqueued, polled⟩ := Option.bind_eq_some_iff.mp polled
        have next := enqueueAll_accounted none _
          (accounted.same (world_same executor (program.poll future executor.world).world))
          enqueued
        have there : called.group[place]? = some (ticket, future) := by
          rw [enqueueAll_group none _ enqueued]
          exact found
        split at polled
        next later pending =>
          -- The future goes on under the same ticket.
          have moved : Accounted promises asyncs
              { called with group := called.group.set place (ticket, later) } :=
            next.same (same_of_queues rfl rfl rfl (set_inFlight there later) rfl rfl)
          exact ih moved polled
        next result ready =>
          cases polled
          exact (next.completed there).same (logError_same _ _ _)

theorem turn_running {polls : List Nat} {executor after : TokioJobExecutor World Code Future}
    (accounted : Accounted [] [] executor)
    (running : executor.turn program polls = .running after) : Accounted [] [] after := by
  unfold turn at running
  split at running
  next => cases running
  next started taken =>
    split at running
    next => cases running
    next busy =>
      split at running
      next => cases running
      next ended finished =>
        cases running
        obtain ⟨polled, next, drained⟩ := Option.bind_eq_some_iff.mp finished
        have before := (takeAsyncJobs_accounted program accounted taken).1
        exact drainJobs_accounted program (pollNext_accounted program polls before next) drained

theorem turn_returned {polls : List Nat} {executor after : TokioJobExecutor World Code Future}
    (accounted : Accounted [] [] executor)
    (returned : executor.turn program polls = .returned after) :
    Accounted [] [] after ∧ after.waiting .async = [] ∧ after.isIdle = true := by
  unfold turn at returned
  split at returned
  next => cases returned
  next started taken =>
    split at returned
    next idle =>
      cases returned
      obtain ⟨held, asyncJobs⟩ := takeAsyncJobs_accounted program accounted taken
      exact ⟨held, asyncJobs, idle⟩
    next busy => split at returned <;> cases returned

theorem loop_returned (turns : List (List Nat))
    {executor after : TokioJobExecutor World Code Future} (accounted : Accounted [] [] executor)
    (returned : loop program turns executor = .returned after) :
    Accounted [] [] after ∧ after.waiting .async = [] ∧ after.isIdle = true := by
  induction turns generalizing executor with
  | nil => cases returned
  | cons polls rest ih =>
      unfold loop at returned
      split at returned
      next next running => exact ih (turn_running program accounted running) returned
      next finished stopped => exact turn_returned program accounted returned

structure Completed (executor : TokioJobExecutor World Code Future) : Prop where
  promise : executor.executed .promise = executor.enqueued .promise
  generic : executor.executed .generic = executor.enqueued .generic
  async : (executor.executed .async).Perm (executor.enqueued .async)
  distinct : ∀ kind, (executor.enqueued kind).Nodup
  promiseJobs : executor.promiseJobs = []
  asyncJobs : executor.asyncJobs = []
  genericJobs : executor.genericJobs = []
  group : executor.group = []

theorem Accounted.completed_of_idle {executor : TokioJobExecutor World Code Future}
    (accounted : Accounted [] [] executor) (taken : executor.waiting .async = [])
    (idle : executor.isIdle = true) : Completed executor := by
  simp only [isIdle, Bool.and_eq_true, List.isEmpty_iff] at idle
  obtain ⟨⟨group, promiseJobs⟩, genericJobs⟩ := idle
  obtain ⟨promise, generic, async, issued, distinct⟩ := accounted
  constructor
  · simpa [waiting, promiseJobs] using promise.symm
  · simpa [waiting, genericJobs] using generic.symm
  · simpa [taken, inFlight, group] using async
  · exact distinct
  · exact promiseJobs
  · exact List.map_eq_nil_iff.mp taken
  · exact genericJobs
  · exact group

/-- The executors of a context between its runs. -/
inductive Reachable : TokioJobExecutor World Code Future → Prop
  | new (world : World) : Reachable (new world)
  | script {executor after : TokioJobExecutor World Code Future} (world : World)
      (jobs : List (Job Code)) :
      Reachable executor → enqueueAll none jobs { executor with world := world } = some after →
        Reachable after
  | run {executor after : TokioJobExecutor World Code Future} (turns : List (List Nat)) :
      Reachable executor → executor.runJobsAsync program turns = .returned after →
        Reachable after

theorem new_accounted (world : World) :
    Accounted [] [] (new world : TokioJobExecutor World Code Future) where
  promise := rfl
  generic := rfl
  async := List.Perm.refl _
  issued _ _ member := by cases member
  distinct _ := List.nodup_nil

theorem runJobsAsync_returned (turns : List (List Nat))
    {executor after : TokioJobExecutor World Code Future} (accounted : Accounted [] [] executor)
    (group : executor.group = [])
    (returned : executor.runJobsAsync program turns = .returned after) :
    Accounted [] [] after ∧ Completed after := by
  have begun : SameJobs executor { executor with group := [] } :=
    same_of_queues rfl rfl rfl (by rw [inFlight, inFlight, group]) rfl rfl
  obtain ⟨held, taken, idle⟩ := loop_returned program turns (accounted.same begun) returned
  exact ⟨held, held.completed_of_idle taken idle⟩

theorem Reachable.accounted {executor : TokioJobExecutor World Code Future}
    (reached : Reachable program executor) : Accounted [] [] executor ∧ executor.group = [] := by
  induction reached with
  | new world => exact ⟨new_accounted world, rfl⟩
  | script world jobs _ enqueued ih =>
      obtain ⟨accounted, group⟩ := ih
      have next := enqueueAll_accounted none jobs (accounted.same (world_same _ world)) enqueued
      exact ⟨next, (enqueueAll_group none jobs enqueued).trans group⟩
  | run turns _ returned ih =>
      obtain ⟨accounted, completed⟩ := runJobsAsync_returned program turns ih.1 ih.2 returned
      exact ⟨accounted, completed.group⟩

theorem jobs_completed (turns : List (List Nat))
    {executor after : TokioJobExecutor World Code Future} (reached : Reachable program executor)
    (returned : executor.runJobsAsync program turns = .returned after) : Completed after := by
  obtain ⟨accounted, group⟩ := reached.accounted program
  exact (runJobsAsync_returned program turns accounted group returned).2

namespace Chain

inductive Step where
  | await
  | fetch
  | thrown
  | caught
  deriving DecidableEq, Repr

def jobs : JobProgram Nat Step Nat where
  call code world :=
    match code with
    | .await => { world := world + 1, enqueued := [.asyncJob .fetch], result := .ok () }
    | .thrown =>
        { world := world + 1, enqueued := [.promiseJob .caught], result := .error "thrown" }
    | _ => { world := world + 1, enqueued := [], result := .ok () }
  start _ world := { world := world, enqueued := [], result := 1 }
  poll future world :=
    match future with
    | 0 => { world := world, enqueued := [.genericJob .thrown], result := .ready (.ok ()) }
    | left + 1 => { world := world, enqueued := [], result := .pending left }
  clearKeptObjects world := world

def script : TokioJobExecutor Nat Step Nat :=
  { (new 0).issue .promise with promiseJobs := [(0, .await)] }

def ended : TokioJobExecutor Nat Step Nat where
  world := 3
  promiseJobs := []
  asyncJobs := []
  genericJobs := []
  group := []
  tickets := 4
  events := [.enqueued .promise 0, .executed .promise 0, .enqueued .async 1, .enqueued .generic 2,
    .executed .async 1, .executed .generic 2, .enqueued .promise 3, .executed .promise 3]
  logged := ["Uncaught error in generic job: thrown"]

theorem script_reachable : Reachable jobs script :=
  .script 0 [.promiseJob .await] (.new 0) rfl

theorem ended_completed :
    script.runJobsAsync jobs [[], [0], [0], []] = .returned ended ∧ Completed ended :=
  ⟨rfl, jobs_completed jobs [[], [0], [0], []] script_reachable rfl⟩

end Chain

end MadRpc.TokioJobExecutor
