import Mathlib.Data.List.Sort
import MadRpc.Metrics.Stats
import MadRpc.Shared.Machine
import MadRpc.Shared.Table

set_option autoImplicit false

namespace MadRpc

structure MetricsConfig where
  maxMethods : Nat
  maxNodes : Nat
  methodTtlSecs : UInt64
  nodeTtlSecs : UInt64
  deriving DecidableEq, Repr

def MetricsConfig.default : MetricsConfig where
  maxMethods := 1000
  maxNodes := 100
  methodTtlSecs := 3600
  nodeTtlSecs := 3600

def saturatingSub (minuend subtrahend : UInt64) : UInt64 :=
  if subtrahend ≤ minuend then minuend - subtrahend else 0

namespace Cleanup

variable {Entry : Type} (lastAccess : Entry → UInt64)

/-- The entries in the order the map is iterated in, which is anyone's guess. -/
def iterated (order : List String) (table : AList fun _ : String => Entry) :
    List (Sigma fun _ : String => Entry) :=
  table.entries.insertionSort fun first second => order.idxOf first.1 ≤ order.idxOf second.1

def oldestFirst (order : List String) (table : AList fun _ : String => Entry) :
    List (Sigma fun _ : String => Entry) :=
  (iterated order table).insertionSort fun first second =>
    lastAccess first.2 ≤ lastAccess second.2

def retainFresh (now ttlMs : UInt64) (table : AList fun _ : String => Entry) :
    AList fun _ : String => Entry :=
  table.retain fun _ entry => decide (saturatingSub now (lastAccess entry) < ttlMs)

def enforceLimit (max : Nat) (order : List String) (table : AList fun _ : String => Entry) :
    AList fun _ : String => Entry :=
  if max < table.keys.length then
    let toRemove := table.keys.length - max
    ((oldestFirst lastAccess order table).take toRemove).foldl
      (fun table entry => table.erase entry.1) table
  else table

def clean (now ttlMs : UInt64) (max : Nat) (order : List String)
    (table : AList fun _ : String => Entry) : AList fun _ : String => Entry :=
  enforceLimit lastAccess max order (retainFresh lastAccess now ttlMs table)

end Cleanup

structure CleanupInput where
  time : Option UInt64
  methodOrder : List String
  nodeOrder : List String

structure MetricsRegistry where
  totalRequests : UInt64
  successfulRequests : UInt64
  failedRequests : UInt64
  methods : AList fun _ : String => MethodStats
  nodes : AList fun _ : String => NodeStats
  config : MetricsConfig
  cleanupCounter : UInt64
  -- The timestamps are issued by statics outside the registry.
  clock : TimestampClock

namespace MetricsRegistry

def withConfig (config : MetricsConfig) (clock : TimestampClock) : MetricsRegistry where
  totalRequests := 0
  successfulRequests := 0
  failedRequests := 0
  methods := ∅
  nodes := ∅
  config := config
  cleanupCounter := 0
  clock := clock

def incrementTotal (registry : MetricsRegistry) : MetricsRegistry :=
  { registry with totalRequests := registry.totalRequests + 1 }

def incrementSuccess (registry : MetricsRegistry) : MetricsRegistry :=
  { registry with successfulRequests := registry.successfulRequests + 1 }

def incrementFailure (registry : MetricsRegistry) : MetricsRegistry :=
  { registry with failedRequests := registry.failedRequests + 1 }

def incrementOutcome (success : Bool) (registry : MetricsRegistry) : MetricsRegistry :=
  if success then registry.incrementSuccess else registry.incrementFailure

def cleanupStaleEntries (input : CleanupInput) (registry : MetricsRegistry) : MetricsRegistry :=
  let (clock, now) := registry.clock.getMonotonicTimestamp input.time
  { registry with
    clock := clock
    methods := Cleanup.clean MethodStats.lastAccessMs now (registry.config.methodTtlSecs * 1000)
      registry.config.maxMethods input.methodOrder registry.methods
    nodes := Cleanup.clean NodeStats.lastRequestMs now (registry.config.nodeTtlSecs * 1000)
      registry.config.maxNodes input.nodeOrder registry.nodes }

def CLEANUP_INTERVAL : UInt64 := 1000

def cleanupDue (registry : MetricsRegistry) : Bool :=
  registry.cleanupCounter % CLEANUP_INTERVAL = 0

def maybeCleanup (input : CleanupInput) (registry : MetricsRegistry) : MetricsRegistry :=
  let counted := { registry with cleanupCounter := registry.cleanupCounter + 1 }
  if registry.cleanupDue then counted.cleanupStaleEntries input else counted

def methodEntry (method : String) (time : Option UInt64) (registry : MetricsRegistry) :
    MetricsRegistry :=
  match registry.methods.lookup method with
  | some _ => registry
  | none =>
      let (clock, now) := registry.clock.getMonotonicTimestamp time
      { registry with
        clock := clock
        methods := registry.methods.insert method (MethodStats.new now) }

/-- One of the increments of an entry, with the timestamp it ends in. -/
def onMethod (method : String) (update : UInt64 → MethodStats → MethodStats)
    (time : Option UInt64) (registry : MetricsRegistry) : MetricsRegistry :=
  let (clock, now) := registry.clock.getMonotonicTimestamp time
  { registry with clock := clock, methods := registry.methods.modify method (update now) }

def nodeEntry (nodeAddr : String) (registry : MetricsRegistry) : MetricsRegistry :=
  match registry.nodes.lookup nodeAddr with
  | some _ => registry
  | none => { registry with nodes := registry.nodes.insert nodeAddr NodeStats.new }

def onNode (nodeAddr : String) (update : UInt64 → NodeStats → NodeStats) (time : Option UInt64)
    (registry : MetricsRegistry) : MetricsRegistry :=
  let (clock, now) := registry.clock.getMonotonicTimestamp time
  { registry with clock := clock, nodes := registry.nodes.modify nodeAddr (update now) }

end MetricsRegistry

structure MethodCallTimes where
  created : Option UInt64
  called : Option UInt64
  recorded : Option UInt64
  settled : Option UInt64

inductive MetricsOperation where
  | recordMethodCall (method : String) (latencyUs : UInt64) (success : Bool)
      (cleanup : CleanupInput) (times : MethodCallTimes)
  | recordNodeRequest (nodeAddr : String) (cleanup : CleanupInput) (time : Option UInt64)

abbrev Stage := MetricsRegistry → MetricsRegistry

namespace MetricsOperation

def cleanup : MetricsOperation → CleanupInput
  | recordMethodCall _ _ _ cleanup _ | recordNodeRequest _ cleanup _ => cleanup

def opening : MetricsOperation → List Stage
  | recordMethodCall _ _ success _ _ =>
      [MetricsRegistry.incrementTotal, MetricsRegistry.incrementOutcome success]
  | recordNodeRequest _ _ _ => []

def recording : MetricsOperation → List Stage
  | recordMethodCall method latencyUs success _ times =>
      [MetricsRegistry.methodEntry method times.created,
        MetricsRegistry.onMethod method MethodStats.incrementCall times.called,
        MetricsRegistry.onMethod method (MethodStats.recordLatency latencyUs) times.recorded,
        MetricsRegistry.onMethod method
          (if success then MethodStats.incrementSuccess else MethodStats.incrementFailure)
          times.settled]
  | recordNodeRequest nodeAddr _ time =>
      [MetricsRegistry.nodeEntry nodeAddr,
        MetricsRegistry.onNode nodeAddr NodeStats.recordRequest time]

def stages (operation : MetricsOperation) : List Stage :=
  operation.opening ++ MetricsRegistry.maybeCleanup operation.cleanup :: operation.recording

end MetricsOperation

namespace MetricsRegistry

/-- Each stage of a call as an input of its own, so that a run passes every point of it. -/
def machine : Machine MetricsRegistry Stage Unit where
  step registry stage := (stage registry, ())

@[simp]
theorem machine_step (registry : MetricsRegistry) (stage : Stage) :
    machine.step registry stage = (stage registry, ()) := rfl

def perform (registry : MetricsRegistry) (operation : MetricsOperation) : MetricsRegistry :=
  machine.run registry operation.stages

def record (registry : MetricsRegistry) (operations : List MetricsOperation) : MetricsRegistry :=
  machine.run registry (operations.flatMap MetricsOperation.stages)

theorem record_cons (registry : MetricsRegistry) (operation : MetricsOperation)
    (rest : List MetricsOperation) :
    registry.record (operation :: rest) = (registry.perform operation).record rest := by
  simp only [record, MetricsRegistry.perform, List.flatMap_cons, Machine.run_append]

theorem record_append (registry : MetricsRegistry) (history : List MetricsOperation)
    (operation : MetricsOperation) :
    registry.record (history ++ [operation]) = (registry.record history).perform operation := by
  simp [record, MetricsRegistry.perform, Machine.run_append]

end MetricsRegistry

end MadRpc
