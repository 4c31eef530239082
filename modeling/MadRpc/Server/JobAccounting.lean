import Mathlib.Data.List.Perm.Basic
import MadRpc.Server.JobExecutor

set_option autoImplicit false

namespace MadRpc.TokioJobExecutor

variable {World Code Future : Type}

def waiting (kind : JobKind) (executor : TokioJobExecutor World Code Future) : List Nat :=
  match kind with
  | .promise => executor.promiseJobs.map Prod.fst
  | .async => executor.asyncJobs.map Prod.fst
  | .generic => executor.genericJobs.map Prod.fst

def inFlight (executor : TokioJobExecutor World Code Future) : List Nat :=
  executor.group.map Prod.fst

theorem enqueued_executed (executor : TokioJobExecutor World Code Future) (kind own : JobKind)
    (ticket : Nat) :
    (executor.record (.executed own ticket)).enqueued kind = executor.enqueued kind := by
  simp [enqueued, record]

theorem executed_executed (executor : TokioJobExecutor World Code Future) (kind own : JobKind)
    (ticket : Nat) :
    (executor.record (.executed own ticket)).executed kind =
      executor.executed kind ++ if own = kind then [ticket] else [] := by
  by_cases same : own = kind <;> simp [executed, record, same]

theorem issue_enqueued (executor : TokioJobExecutor World Code Future) (kind own : JobKind) :
    (executor.issue own).enqueued kind =
      executor.enqueued kind ++ if own = kind then [executor.tickets] else [] := by
  by_cases same : own = kind <;> simp [enqueued, issue, record, same]

theorem issue_executed (executor : TokioJobExecutor World Code Future) (kind own : JobKind) :
    (executor.issue own).executed kind = executor.executed kind := by
  simp [executed, issue, record]

/-- Every job is executed, waits in its queue, is held by the loop that has taken it out of
its queue, or is a future of the group. -/
structure Accounted (promises asyncs : List Nat) (executor : TokioJobExecutor World Code Future) :
    Prop where
  promise : executor.enqueued .promise =
    executor.executed .promise ++ (promises ++ executor.waiting .promise)
  generic : executor.enqueued .generic = executor.executed .generic ++ executor.waiting .generic
  async : (executor.executed .async ++
    (executor.inFlight ++ (asyncs ++ executor.waiting .async))).Perm (executor.enqueued .async)
  issued : ∀ kind, ∀ ticket ∈ executor.enqueued kind, ticket < executor.tickets
  distinct : ∀ kind, (executor.enqueued kind).Nodup

structure SameJobs (before after : TokioJobExecutor World Code Future) : Prop where
  waiting : ∀ kind, after.waiting kind = before.waiting kind
  inFlight : after.inFlight = before.inFlight
  tickets : after.tickets = before.tickets
  events : after.events = before.events

theorem Accounted.same {promises asyncs : List Nat}
    {before after : TokioJobExecutor World Code Future}
    (accounted : Accounted promises asyncs before) (same : SameJobs before after) :
    Accounted promises asyncs after := by
  have enqueued (kind : JobKind) : after.enqueued kind = before.enqueued kind := by
    rw [TokioJobExecutor.enqueued, same.events]
    rfl
  have executed (kind : JobKind) : after.executed kind = before.executed kind := by
    rw [TokioJobExecutor.executed, same.events]
    rfl
  constructor
  · rw [enqueued, executed, same.waiting]
    exact accounted.promise
  · rw [enqueued, executed, same.waiting]
    exact accounted.generic
  · rw [enqueued, executed, same.waiting, same.inFlight]
    exact accounted.async
  · intro kind
    rw [enqueued, same.tickets]
    exact accounted.issued kind
  · intro kind
    rw [enqueued]
    exact accounted.distinct kind

theorem same_of_queues {before after : TokioJobExecutor World Code Future}
    (promiseJobs : after.promiseJobs = before.promiseJobs)
    (asyncJobs : after.asyncJobs = before.asyncJobs)
    (genericJobs : after.genericJobs = before.genericJobs)
    (inFlight : after.inFlight = before.inFlight) (tickets : after.tickets = before.tickets)
    (events : after.events = before.events) : SameJobs before after where
  waiting kind := by cases kind <;> simp only [waiting, promiseJobs, asyncJobs, genericJobs]
  inFlight := inFlight
  tickets := tickets
  events := events

theorem logError_same (source : String) (result : Except String Unit)
    (executor : TokioJobExecutor World Code Future) :
    SameJobs executor (executor.logError source result) := by
  cases result <;> exact same_of_queues rfl rfl rfl rfl rfl rfl

theorem world_same (executor : TokioJobExecutor World Code Future) (world : World) :
    SameJobs executor { executor with world := world } :=
  same_of_queues rfl rfl rfl rfl rfl rfl

theorem issue_tickets {promises asyncs : List Nat}
    {executor : TokioJobExecutor World Code Future}
    (accounted : Accounted promises asyncs executor) (own : JobKind) :
    (∀ kind, ∀ ticket ∈ (executor.issue own).enqueued kind,
      ticket < (executor.issue own).tickets) ∧
      ∀ kind, ((executor.issue own).enqueued kind).Nodup := by
  constructor
  · intro kind ticket member
    rw [issue_enqueued] at member
    obtain before | new := List.mem_append.mp member
    · exact Nat.lt_succ_of_lt (accounted.issued kind ticket before)
    · split at new
      next =>
        rw [List.mem_singleton.mp new]
        exact Nat.lt_succ_self _
      next => cases new
  · intro kind
    rw [issue_enqueued]
    split
    next =>
      refine List.nodup_append.mpr ⟨accounted.distinct kind, List.pairwise_singleton _ _, ?_⟩
      intro ticket member other new
      rw [List.mem_singleton.mp new]
      exact Nat.ne_of_lt (accounted.issued kind ticket member)
    next =>
      rw [List.append_nil]
      exact accounted.distinct kind

structure Pushed (own : JobKind) (before after : TokioJobExecutor World Code Future) : Prop where
  waiting : ∀ kind, after.waiting kind =
    before.waiting kind ++ if own = kind then [before.tickets] else []
  inFlight : after.inFlight = before.inFlight
  tickets : after.tickets = (before.issue own).tickets
  events : after.events = (before.issue own).events

theorem Accounted.pushed {promises asyncs : List Nat} {own : JobKind}
    {before after : TokioJobExecutor World Code Future}
    (accounted : Accounted promises asyncs before) (pushed : Pushed own before after) :
    Accounted promises asyncs after := by
  have enqueued (kind : JobKind) : after.enqueued kind = (before.issue own).enqueued kind := by
    rw [TokioJobExecutor.enqueued, pushed.events]
    rfl
  have executed (kind : JobKind) : after.executed kind = before.executed kind := by
    rw [TokioJobExecutor.executed, pushed.events]
    exact issue_executed before kind own
  obtain ⟨issued, distinct⟩ := issue_tickets accounted own
  constructor
  · rw [enqueued, executed, pushed.waiting, issue_enqueued, accounted.promise]
    simp only [List.append_assoc]
  · rw [enqueued, executed, pushed.waiting, issue_enqueued, accounted.generic]
    simp only [List.append_assoc]
  · rw [enqueued, executed, pushed.waiting, pushed.inFlight, issue_enqueued]
    have longer := accounted.async.append_right (if own = .async then [before.tickets] else [])
    simpa only [List.append_assoc] using longer
  · intro kind
    rw [enqueued, pushed.tickets]
    exact issued kind
  · intro kind
    rw [enqueued]
    exact distinct kind

theorem enqueueJob_accounted {promises asyncs : List Nat} (borrowed : Option JobKind)
    (job : Job Code) {executor after : TokioJobExecutor World Code Future}
    (accounted : Accounted promises asyncs executor)
    (enqueued : executor.enqueueJob borrowed job = some after) :
    Accounted promises asyncs after := by
  have pushed {own : JobKind} {after : TokioJobExecutor World Code Future}
      (waiting : ∀ kind, after.waiting kind =
        executor.waiting kind ++ if own = kind then [executor.tickets] else [])
      (inFlight : after.inFlight = executor.inFlight)
      (tickets : after.tickets = (executor.issue own).tickets)
      (events : after.events = (executor.issue own).events) : Accounted promises asyncs after :=
    accounted.pushed ⟨waiting, inFlight, tickets, events⟩
  cases job with
  | promiseJob code =>
      rw [enqueueJob] at enqueued
      split at enqueued
      next => cases enqueued
      next =>
        cases enqueued
        exact pushed (fun kind => by cases kind <;> simp [waiting, issue, record]) rfl rfl rfl
  | asyncJob code =>
      rw [enqueueJob] at enqueued
      split at enqueued
      next => cases enqueued
      next =>
        cases enqueued
        exact pushed (fun kind => by cases kind <;> simp [waiting, issue, record]) rfl rfl rfl
  | genericJob code =>
      rw [enqueueJob] at enqueued
      split at enqueued
      next => cases enqueued
      next =>
        cases enqueued
        exact pushed (fun kind => by cases kind <;> simp [waiting, issue, record]) rfl rfl rfl
  | unsupported =>
      cases enqueued
      exact accounted.same (same_of_queues rfl rfl rfl rfl rfl rfl)

theorem enqueueAll_accounted {promises asyncs : List Nat} (borrowed : Option JobKind)
    (jobs : List (Job Code)) {executor after : TokioJobExecutor World Code Future}
    (accounted : Accounted promises asyncs executor)
    (enqueued : executor.enqueueAll borrowed jobs = some after) :
    Accounted promises asyncs after := by
  induction jobs generalizing executor with
  | nil =>
      cases enqueued
      exact accounted
  | cons job rest ih =>
      obtain ⟨next, one, others⟩ := Option.bind_eq_some_iff.mp enqueued
      exact ih (enqueueJob_accounted borrowed job accounted one) others

theorem enqueueAll_group (borrowed : Option JobKind) (jobs : List (Job Code))
    {executor after : TokioJobExecutor World Code Future}
    (enqueued : executor.enqueueAll borrowed jobs = some after) :
    after.group = executor.group := by
  induction jobs generalizing executor with
  | nil =>
      cases enqueued
      rfl
  | cons job rest ih =>
      obtain ⟨next, one, others⟩ := Option.bind_eq_some_iff.mp enqueued
      rw [ih others]
      cases job with
      | unsupported =>
          cases one
          rfl
      | _ =>
          rw [enqueueJob] at one
          split at one
          next => cases one
          next =>
            cases one
            rfl

/-- A queue that is borrowed does not grow: the job that would enter it panics. -/
theorem enqueueJob_borrowed (kind : JobKind) (job : Job Code)
    {executor after : TokioJobExecutor World Code Future}
    (enqueued : executor.enqueueJob (some kind) job = some after) :
    after.waiting kind = executor.waiting kind := by
  cases job with
  | unsupported =>
      cases enqueued
      cases kind <;> rfl
  | _ =>
      rw [enqueueJob] at enqueued
      split at enqueued
      next => cases enqueued
      next free =>
        cases enqueued
        cases kind <;> first | rfl | exact absurd rfl free

theorem enqueueAll_borrowed (kind : JobKind) (jobs : List (Job Code))
    {executor after : TokioJobExecutor World Code Future}
    (enqueued : executor.enqueueAll (some kind) jobs = some after) :
    after.waiting kind = executor.waiting kind := by
  induction jobs generalizing executor with
  | nil =>
      cases enqueued
      rfl
  | cons job rest ih =>
      obtain ⟨next, one, others⟩ := Option.bind_eq_some_iff.mp enqueued
      rw [ih others, enqueueJob_borrowed kind job one]

theorem Accounted.ran_promise {promises asyncs : List Nat} {ticket : Nat}
    {executor : TokioJobExecutor World Code Future}
    (accounted : Accounted (ticket :: promises) asyncs executor) :
    Accounted promises asyncs (executor.record (.executed .promise ticket)) := by
  constructor
  · rw [enqueued_executed, executed_executed, if_pos rfl, List.append_assoc]
    exact accounted.promise
  · rw [enqueued_executed, executed_executed, if_neg nofun, List.append_nil]
    exact accounted.generic
  · rw [enqueued_executed, executed_executed, if_neg nofun, List.append_nil]
    exact accounted.async
  · intro kind
    rw [enqueued_executed]
    exact accounted.issued kind
  · intro kind
    rw [enqueued_executed]
    exact accounted.distinct kind

theorem Accounted.ran_generic {promises asyncs : List Nat} {ticket : Nat} {code : Code}
    {rest : List (Nat × Code)} {executor : TokioJobExecutor World Code Future}
    (accounted : Accounted promises asyncs executor)
    (first : executor.genericJobs = (ticket, code) :: rest) :
    Accounted promises asyncs
      ({ executor with genericJobs := rest }.record (.executed .generic ticket)) := by
  constructor
  · rw [enqueued_executed, executed_executed, if_neg nofun, List.append_nil]
    exact accounted.promise
  · rw [enqueued_executed, executed_executed, if_pos rfl, List.append_assoc]
    have generic := accounted.generic
    rw [waiting, first] at generic
    exact generic
  · rw [enqueued_executed, executed_executed, if_neg nofun, List.append_nil]
    exact accounted.async
  · intro kind
    rw [enqueued_executed]
    exact accounted.issued kind
  · intro kind
    rw [enqueued_executed]
    exact accounted.distinct kind

theorem Accounted.inserted {promises asyncs : List Nat} {ticket : Nat}
    {executor : TokioJobExecutor World Code Future}
    (accounted : Accounted promises (ticket :: asyncs) executor) (future : Future) :
    Accounted promises asyncs
      { executor with group := executor.group ++ [(ticket, future)] } := by
  obtain ⟨promise, generic, async, issued, distinct⟩ := accounted
  refine ⟨promise, generic, ?_, issued, distinct⟩
  have longer : inFlight { executor with group := executor.group ++ [(ticket, future)] } =
      executor.inFlight ++ [ticket] := List.map_append
  rw [longer, List.append_assoc]
  exact async

theorem Accounted.completed {promises asyncs : List Nat} {ticket place : Nat} {future : Future}
    {executor : TokioJobExecutor World Code Future}
    (accounted : Accounted promises asyncs executor)
    (found : executor.group[place]? = some (ticket, future)) :
    Accounted promises asyncs
      ({ executor with group := executor.group.eraseIdx place }.record
        (.executed .async ticket)) := by
  constructor
  · rw [enqueued_executed, executed_executed, if_neg nofun, List.append_nil]
    exact accounted.promise
  · rw [enqueued_executed, executed_executed, if_neg nofun, List.append_nil]
    exact accounted.generic
  · rw [enqueued_executed, executed_executed, if_pos rfl, List.append_assoc]
    refine List.Perm.trans (List.Perm.append_left _ ?_) accounted.async
    -- The ticket moves from its place in the group to the executed ones.
    obtain ⟨inside, here⟩ := List.getElem?_eq_some_iff.mp found
    have taken := (List.getElem_cons_eraseIdx_perm inside).map Prod.fst
    rw [here] at taken
    exact taken.append_right _
  · intro kind
    rw [enqueued_executed]
    exact accounted.issued kind
  · intro kind
    rw [enqueued_executed]
    exact accounted.distinct kind

end MadRpc.TokioJobExecutor
