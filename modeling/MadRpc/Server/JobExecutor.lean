set_option autoImplicit false

/-!
# The job executor

A borrow of a queue that lasts while jobs run is passed on to `enqueueJob`, where a second
one panics. Panics are `none`. Every job gets a ticket when it is enqueued, by which the
events tell jobs apart.
-/

namespace MadRpc

inductive JobKind where
  | promise
  | async
  | generic
  deriving DecidableEq, Repr

inductive Job (Code : Type) where
  | promiseJob (code : Code)
  | asyncJob (code : Code)
  | genericJob (code : Code)
  -- Timeout jobs and whatever else the engine may hand over.
  | unsupported
  deriving DecidableEq, Repr

structure Ran (World Code Result : Type) where
  world : World
  enqueued : List (Job Code)
  result : Result

inductive Poll (Future : Type) where
  | pending (future : Future)
  | ready (result : Except String Unit)

structure JobProgram (World Code Future : Type) where
  call : Code → World → Ran World Code (Except String Unit)
  -- The call of an async job, which makes its future.
  start : Code → World → Ran World Code Future
  poll : Future → World → Ran World Code (Poll Future)
  clearKeptObjects : World → World

inductive JobEvent where
  | enqueued (kind : JobKind) (ticket : Nat)
  | executed (kind : JobKind) (ticket : Nat)
  deriving DecidableEq, Repr

structure TokioJobExecutor (World Code Future : Type) where
  world : World
  promiseJobs : List (Nat × Code)
  asyncJobs : List (Nat × Code)
  genericJobs : List (Nat × Code)
  group : List (Nat × Future)
  tickets : Nat
  events : List JobEvent
  logged : List String

namespace TokioJobExecutor

variable {World Code Future : Type}

def new (world : World) : TokioJobExecutor World Code Future where
  world := world
  promiseJobs := []
  asyncJobs := []
  genericJobs := []
  group := []
  tickets := 0
  events := []
  logged := []

def enqueued (kind : JobKind) (executor : TokioJobExecutor World Code Future) : List Nat :=
  executor.events.filterMap fun
    | .enqueued own ticket => if own = kind then some ticket else none
    | .executed _ _ => none

def executed (kind : JobKind) (executor : TokioJobExecutor World Code Future) : List Nat :=
  executor.events.filterMap fun
    | .executed own ticket => if own = kind then some ticket else none
    | .enqueued _ _ => none

def record (event : JobEvent) (executor : TokioJobExecutor World Code Future) :
    TokioJobExecutor World Code Future :=
  { executor with events := executor.events ++ [event] }

def logError (source : String) (result : Except String Unit)
    (executor : TokioJobExecutor World Code Future) : TokioJobExecutor World Code Future :=
  match result with
  | .ok () => executor
  | .error err =>
      { executor with
        logged := executor.logged ++ ["Uncaught error in " ++ source ++ " job: " ++ err] }

def issue (kind : JobKind) (executor : TokioJobExecutor World Code Future) :
    TokioJobExecutor World Code Future :=
  { executor with tickets := executor.tickets + 1 }.record (.enqueued kind executor.tickets)

def enqueueJob (borrowed : Option JobKind) (job : Job Code)
    (executor : TokioJobExecutor World Code Future) :
    Option (TokioJobExecutor World Code Future) :=
  match job with
  | .promiseJob code =>
      if borrowed = some .promise then none
      else some { executor.issue .promise with
        promiseJobs := executor.promiseJobs ++ [(executor.tickets, code)] }
  | .asyncJob code =>
      if borrowed = some .async then none
      else some { executor.issue .async with
        asyncJobs := executor.asyncJobs ++ [(executor.tickets, code)] }
  | .genericJob code =>
      if borrowed = some .generic then none
      else some { executor.issue .generic with
        genericJobs := executor.genericJobs ++ [(executor.tickets, code)] }
  | .unsupported =>
      some { executor with
        logged := executor.logged ++ ["Unsupported job type enqueued, ignoring"] }

def enqueueAll (borrowed : Option JobKind) :
    List (Job Code) → TokioJobExecutor World Code Future →
      Option (TokioJobExecutor World Code Future)
  | [], executor => some executor
  | job :: rest, executor => (executor.enqueueJob borrowed job).bind (enqueueAll borrowed rest)

def hasPendingJobs (executor : TokioJobExecutor World Code Future) : Bool :=
  !executor.promiseJobs.isEmpty || !executor.asyncJobs.isEmpty || !executor.genericJobs.isEmpty

variable (program : JobProgram World Code Future)

def runGeneric (executor : TokioJobExecutor World Code Future) :
    Option (TokioJobExecutor World Code Future) :=
  match executor.genericJobs with
  | [] => some executor
  | (ticket, code) :: rest =>
      let ran := program.call code executor.world
      -- The mutable borrow for `pop_front` lasts until the end of the `if let`.
      ({ executor with genericJobs := rest, world := ran.world }.record
        (.executed .generic ticket)).enqueueAll (some .generic) ran.enqueued |>.map
          (logError "generic" ran.result)

def runPromises : List (Nat × Code) → TokioJobExecutor World Code Future →
    Option (TokioJobExecutor World Code Future)
  | [], executor => some executor
  | (ticket, code) :: rest, executor =>
      let ran := program.call code executor.world
      ({ executor with world := ran.world }.record (.executed .promise ticket)).enqueueAll none
        ran.enqueued |>.bind fun executor =>
          runPromises rest (executor.logError "promise" ran.result)

def drainJobs (executor : TokioJobExecutor World Code Future) :
    Option (TokioJobExecutor World Code Future) :=
  (executor.runGeneric program).bind fun executor =>
    let jobs := executor.promiseJobs
    (runPromises program jobs { executor with promiseJobs := [] }).map fun executor =>
      { executor with world := program.clearKeptObjects executor.world }

def startJobs : List (Nat × Code) → TokioJobExecutor World Code Future →
    Option (TokioJobExecutor World Code Future)
  | [], executor => some executor
  | (ticket, code) :: rest, executor =>
      let started := program.start code executor.world
      -- The mutable borrow for `take` lasts until the end of the loop.
      ({ executor with world := started.world }.enqueueAll (some .async) started.enqueued).bind
        fun executor =>
          startJobs rest { executor with group := executor.group ++ [(ticket, started.result)] }

def takeAsyncJobs (executor : TokioJobExecutor World Code Future) :
    Option (TokioJobExecutor World Code Future) :=
  startJobs program executor.asyncJobs { executor with asyncJobs := [] }

/-- One poll of `next`. The futures that can go on are polled, in an order that is given by
their places in the group, until one of them is ready. -/
def pollNext : List Nat → TokioJobExecutor World Code Future →
    Option (TokioJobExecutor World Code Future)
  | [], executor => some executor
  | place :: rest, executor =>
      match executor.group[place]? with
      | none => pollNext rest executor
      | some (ticket, future) =>
          let polled := program.poll future executor.world
          ({ executor with world := polled.world }.enqueueAll none polled.enqueued).bind
            fun executor =>
              match polled.result with
              | .pending future =>
                  pollNext rest
                    { executor with group := executor.group.set place (ticket, future) }
              | .ready result =>
                  some (({ executor with group := executor.group.eraseIdx place }.record
                    (.executed .async ticket)).logError "async" result)

def isIdle (executor : TokioJobExecutor World Code Future) : Bool :=
  executor.group.isEmpty && executor.promiseJobs.isEmpty && executor.genericJobs.isEmpty

inductive Progress (World Code Future : Type) where
  | returned (executor : TokioJobExecutor World Code Future)
  | running (executor : TokioJobExecutor World Code Future)
  | panicked

/-- One turn of the loop in `run_jobs_async`. -/
def turn (polls : List Nat) (executor : TokioJobExecutor World Code Future) :
    Progress World Code Future :=
  match executor.takeAsyncJobs program with
  | none => .panicked
  | some executor =>
      if executor.isIdle then .returned executor
      else
        match (pollNext program polls executor).bind (drainJobs program) with
        | none => .panicked
        | some executor => .running executor

def loop : List (List Nat) → TokioJobExecutor World Code Future → Progress World Code Future
  | [], executor => .running executor
  | polls :: rest, executor =>
      match executor.turn program polls with
      | .running executor => loop rest executor
      | finished => finished

/-- A run for the given turns, each with the order in which its poll finds the futures. -/
def runJobsAsync (turns : List (List Nat)) (executor : TokioJobExecutor World Code Future) :
    Progress World Code Future :=
  loop program turns { executor with group := [] }

end TokioJobExecutor

end MadRpc
