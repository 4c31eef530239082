import Mathlib.Logic.Function.Basic
import MadRpc.Metrics.Registry

set_option autoImplicit false

/-!
# Calls of `record_method_call` side by side

Every access to an atomic is a step of its own, and so is every lock operation. The
`HashMap` is only touched under its lock, so that there a step may also find and insert.
-/

namespace MadRpc

def TimestampClock.readSystemTime (clock : TimestampClock) (systemTime : Option UInt64) :
    TimestampClock × UInt64 :=
  match systemTime with
  | some reading => (clock, reading)
  | none =>
      ({ clock with timestampFallback := clock.timestampFallback + 1 }, clock.timestampFallback)

/-- The compare-and-swap that succeeds. Those that fail before it change nothing. -/
def TimestampClock.exchange (clock : TimestampClock) (systemTime : UInt64) :
    TimestampClock × UInt64 :=
  let newTimestamp := max systemTime (clock.lastTimestamp + 1)
  ({ clock with lastTimestamp := newTimestamp }, newTimestamp)

theorem TimestampClock.getMonotonicTimestamp_eq (clock : TimestampClock)
    (systemTime : Option UInt64) :
    clock.getMonotonicTimestamp systemTime =
      (clock.readSystemTime systemTime).1.exchange (clock.readSystemTime systemTime).2 := by
  cases systemTime <;> rfl

structure MethodCall where
  method : String
  latencyUs : UInt64
  success : Bool

inductive Update where
  | callCount
  | bin
  | totalLatency
  | sampleCount
  | outcome
  | readSystemTime
  | exchange
  | lastAccess
  deriving DecidableEq, Repr

namespace Update

def updateLastAccess : List Update := [readSystemTime, exchange, lastAccess]

def incrementCall : List Update := callCount :: updateLastAccess

def recordLatency : List Update := [bin, totalLatency, sampleCount] ++ updateLastAccess

def incrementOutcome : List Update := outcome :: updateLastAccess

def recording : List Update := incrementCall ++ recordLatency ++ incrementOutcome

def apply (call : MethodCall) (now : UInt64) : Update → MethodStats → MethodStats
  | callCount, stats => stats.countCall
  | bin, stats =>
      { stats with
        latencies := stats.latencies.incrementBin (LatencyHistogram.binOf call.latencyUs) }
  | totalLatency, stats =>
      { stats with latencies := stats.latencies.addLatency call.latencyUs }
  | sampleCount, stats => { stats with latencies := stats.latencies.countSample }
  | outcome, stats => if call.success then stats.countSuccess else stats.countFailure
  | lastAccess, stats => stats.updateLastAccess now
  | readSystemTime, stats | exchange, stats => stats

end Update

inductive Point where
  | incrementTotal
  | incrementOutcome
  | countCleanup
  | cleanupTime
  | cleanupExchange (systemTime : UInt64)
  | lockCleanup (now : UInt64)
  | retaining (now : UInt64) (names : List String)
  | limiting (now : UInt64)
  | ranking (now : UInt64) (names : List String) (entries : List (String × UInt64))
  | removing (now : UInt64) (names : List String)
  | unlockCleanup (now : UInt64)
  | cleaningNodes (now : UInt64)
  | lockEntry
  | entering
  | creatingTime
  | creating (systemTime : UInt64)
  | leaving (entry : Nat)
  | recording (entry : Nat) (systemTime now : UInt64) (rest : List Update)

structure SharedRegistry where
  totalRequests : UInt64
  successfulRequests : UInt64
  failedRequests : UInt64
  methods : AList fun _ : String => Nat
  -- A call keeps its reference to an entry that has left the map.
  stats : Nat → MethodStats
  allocated : Nat
  nodes : AList fun _ : String => NodeStats
  config : MetricsConfig
  cleanupCounter : UInt64
  clock : TimestampClock
  -- The call that holds the write lock of the methods.
  methodsLock : Option Nat

/-- What a step finds outside the registry. -/
structure Surroundings where
  time : Option UInt64
  methodOrder : List String
  nodeOrder : List String

namespace SharedRegistry

def withConfig (config : MetricsConfig) (clock : TimestampClock) : SharedRegistry where
  totalRequests := 0
  successfulRequests := 0
  failedRequests := 0
  methods := ∅
  stats := fun _ => .new 0
  allocated := 0
  nodes := ∅
  config := config
  cleanupCounter := 0
  clock := clock
  methodsLock := none

def tracked (registry : SharedRegistry) (method : String) : Option MethodStats :=
  (registry.methods.lookup method).map registry.stats

/-- The names in the order the map is iterated in, which is anyone's guess. -/
def iterated (order : List String) (registry : SharedRegistry) : List String :=
  registry.methods.keys.insertionSort fun first second => order.idxOf first ≤ order.idxOf second

def retain (now : UInt64) (name : String) (registry : SharedRegistry) : SharedRegistry :=
  match registry.tracked name with
  | some stats =>
      if saturatingSub now stats.lastAccessMs < registry.config.methodTtlSecs * 1000 then registry
      else { registry with methods := registry.methods.erase name }
  | none => registry

def leastRecentlyUsed (entries : List (String × UInt64)) (count : Nat) : List String :=
  ((entries.insertionSort fun first second => first.2 ≤ second.2).take count).map Prod.fst

def update (call : MethodCall) (input : Surroundings) (entry : Nat) (systemTime now : UInt64) :
    Update → SharedRegistry → SharedRegistry × UInt64 × UInt64
  | .readSystemTime, registry =>
      let (clock, systemTime) := registry.clock.readSystemTime input.time
      ({ registry with clock := clock }, systemTime, now)
  | .exchange, registry =>
      let (clock, now) := registry.clock.exchange systemTime
      ({ registry with clock := clock }, systemTime, now)
  | access, registry =>
      ({ registry with
        stats := Function.update registry.stats entry
          (access.apply call now (registry.stats entry)) }, systemTime, now)

/-- One step of a call. A call that waits for the lock stays where it is. -/
def advance (index : Nat) (call : MethodCall) (input : Surroundings) (registry : SharedRegistry) :
    Point → SharedRegistry × Point
  | .incrementTotal =>
      ({ registry with totalRequests := registry.totalRequests + 1 }, .incrementOutcome)
  | .incrementOutcome =>
      (if call.success then
        { registry with successfulRequests := registry.successfulRequests + 1 }
      else { registry with failedRequests := registry.failedRequests + 1 }, .countCleanup)
  | .countCleanup =>
      ({ registry with cleanupCounter := registry.cleanupCounter + 1 },
        if registry.cleanupCounter % MetricsRegistry.CLEANUP_INTERVAL = 0 then .cleanupTime
        else .lockEntry)
  | .cleanupTime =>
      let (clock, systemTime) := registry.clock.readSystemTime input.time
      ({ registry with clock := clock }, .cleanupExchange systemTime)
  | .cleanupExchange systemTime =>
      let (clock, now) := registry.clock.exchange systemTime
      ({ registry with clock := clock }, .lockCleanup now)
  | .lockCleanup now =>
      if registry.methodsLock = none then
        ({ registry with methodsLock := some index },
          .retaining now (registry.iterated input.methodOrder))
      else (registry, .lockCleanup now)
  | .retaining now [] => (registry, .limiting now)
  | .retaining now (name :: names) => (registry.retain now name, .retaining now names)
  | .limiting now =>
      (registry,
        if registry.config.maxMethods < registry.methods.keys.length then
          .ranking now (registry.iterated input.methodOrder) []
        else .unlockCleanup now)
  | .ranking now (name :: names) entries =>
      (registry, .ranking now names
        (entries ++ ((registry.tracked name).map fun stats => (name, stats.lastAccessMs)).toList))
  | .ranking now [] entries =>
      (registry, .removing now
        (leastRecentlyUsed entries (entries.length - registry.config.maxMethods)))
  | .removing now (name :: names) =>
      ({ registry with methods := registry.methods.erase name }, .removing now names)
  | .removing now [] => (registry, .unlockCleanup now)
  | .unlockCleanup now => ({ registry with methodsLock := none }, .cleaningNodes now)
  | .cleaningNodes now =>
      ({ registry with
        nodes := Cleanup.clean NodeStats.lastRequestMs now (registry.config.nodeTtlSecs * 1000)
          registry.config.maxNodes input.nodeOrder registry.nodes }, .lockEntry)
  | .lockEntry =>
      if registry.methodsLock = none then
        ({ registry with methodsLock := some index }, .entering)
      else (registry, .lockEntry)
  | .entering =>
      (registry, match registry.methods.lookup call.method with
        | some entry => .leaving entry
        | none => .creatingTime)
  | .creatingTime =>
      let (clock, systemTime) := registry.clock.readSystemTime input.time
      ({ registry with clock := clock }, .creating systemTime)
  | .creating systemTime =>
      let (clock, now) := registry.clock.exchange systemTime
      ({ registry with
        clock := clock
        methods := registry.methods.insert call.method registry.allocated
        stats := Function.update registry.stats registry.allocated (.new now)
        allocated := registry.allocated + 1 }, .leaving registry.allocated)
  | .leaving entry =>
      ({ registry with methodsLock := none }, .recording entry 0 0 Update.recording)
  | .recording entry systemTime now (next :: rest) =>
      let (registry, systemTime, now) := registry.update call input entry systemTime now next
      (registry, .recording entry systemTime now rest)
  | .recording entry systemTime now [] => (registry, .recording entry systemTime now [])

end SharedRegistry

structure ActiveCall where
  call : MethodCall
  point : Point

structure ConcurrentMetrics where
  registry : SharedRegistry
  -- Every call made so far, in the order in which they began.
  calls : List ActiveCall

inductive ConcurrentInput where
  | begin (call : MethodCall)
  | advance (index : Nat) (input : Surroundings)

namespace ConcurrentMetrics

def withConfig (config : MetricsConfig) (clock : TimestampClock) : ConcurrentMetrics where
  registry := .withConfig config clock
  calls := []

def step (state : ConcurrentMetrics) : ConcurrentInput → ConcurrentMetrics
  | .begin call => { state with calls := state.calls ++ [⟨call, .incrementTotal⟩] }
  | .advance index input =>
      match state.calls[index]? with
      | some active =>
          let (registry, point) := state.registry.advance index active.call input active.point
          { registry := registry, calls := state.calls.set index { active with point := point } }
      | none => state

def machine : Machine ConcurrentMetrics ConcurrentInput Unit where
  step state input := (state.step input, ())

end ConcurrentMetrics

end MadRpc
