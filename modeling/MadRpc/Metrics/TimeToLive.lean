import Mathlib.Data.List.Induction
import MadRpc.Metrics.BoundedMemory

set_option autoImplicit false

namespace MadRpc

/-! ## When an entry was last called, by the system clock -/

namespace MetricsOperation

def methodReading (method : String) : MetricsOperation → Option (Option UInt64)
  | recordMethodCall name _ _ _ times => if name = method then some times.settled else none
  | recordNodeRequest _ _ _ => none

def nodeReading (nodeAddr : String) : MetricsOperation → Option (Option UInt64)
  | recordMethodCall _ _ _ _ _ => none
  | recordNodeRequest addr _ time => if addr = nodeAddr then some time else none

def readings : MetricsOperation → List (Option UInt64)
  | recordMethodCall _ _ _ cleanup times =>
      [cleanup.time, times.created, times.called, times.recorded, times.settled]
  | recordNodeRequest _ cleanup time => [cleanup.time, time]

end MetricsOperation

def latestReading (reading : MetricsOperation → Option (Option UInt64))
    (history : List MetricsOperation) : Option UInt64 :=
  history.foldl (fun latest operation => (reading operation).getD latest) none

theorem latestReading_append (reading : MetricsOperation → Option (Option UInt64))
    (history : List MetricsOperation) (operation : MetricsOperation) :
    latestReading reading (history ++ [operation]) =
      (reading operation).getD (latestReading reading history) := by
  simp [latestReading]

/-- The latest call happened before `now`, and less than the TTL before it, in system
clock time. -/
def Recent (latest : Option UInt64) (now ttlSecs : UInt64) : Prop :=
  ∃ called, latest = some called ∧ called ≤ now ∧
    now.toNat < called.toNat + ttlSecs.toNat * 1000

/-! ## What a cleanup removes -/

theorem saturatingSub_toNat (minuend subtrahend : UInt64) :
    (saturatingSub minuend subtrahend).toNat = minuend.toNat - subtrahend.toNat := by
  unfold saturatingSub
  split
  next le => exact UInt64.toNat_sub_of_le _ _ le
  next lt =>
    have smaller := UInt64.lt_iff_toNat_lt.mp (UInt64.not_le.mp lt)
    rw [Nat.sub_eq_zero_of_le (Nat.le_of_lt smaller)]
    rfl

theorem saturatingSub_max_lt (first second lastAccess ttlMs : UInt64) :
    saturatingSub (max first second) lastAccess < ttlMs ↔
      saturatingSub first lastAccess < ttlMs ∧ saturatingSub second lastAccess < ttlMs := by
  simp only [UInt64.lt_iff_toNat_lt, saturatingSub_toNat, toNat_max]
  omega

namespace Cleanup

variable {Entry : Type} (lastAccess : Entry → UInt64)

theorem enforceLimit_lookup (max : Nat) (order : List String)
    (table : AList fun _ : String => Entry) (key : String) :
    (enforceLimit lastAccess max order table).lookup key =
      if key ∈ ((oldestFirst lastAccess order table).take (table.keys.length - max)).map Sigma.fst
      then none else table.lookup key := by
  rw [enforceLimit_eq, ← AList.lookup_foldl_erase, List.foldl_map]

theorem lookup_of_enforceLimit (max : Nat) (order : List String)
    (table : AList fun _ : String => Entry) (key : String) (entry : Entry)
    (found : (enforceLimit lastAccess max order table).lookup key = some entry) :
    table.lookup key = some entry := by
  rw [enforceLimit_lookup] at found
  split at found
  next => cases found
  next => exact found

theorem lookup_of_clean (now ttlMs : UInt64) (max : Nat) (order : List String)
    (table : AList fun _ : String => Entry) (key : String) (entry : Entry)
    (found : (clean lastAccess now ttlMs max order table).lookup key = some entry) :
    table.lookup key = some entry := by
  have kept := lookup_of_enforceLimit lastAccess max order _ key entry found
  rw [retainFresh, AList.lookup_retain, Option.filter_eq_some_iff] at kept
  exact kept.1

theorem clean_keeps_iff (now ttlMs : UInt64) (max : Nat) (order : List String)
    (table : AList fun _ : String => Entry) (fits : table.keys.length ≤ max) (key : String)
    (entry : Entry) (tracked : table.lookup key = some entry) :
    (clean lastAccess now ttlMs max order table).lookup key ≠ none ↔
      saturatingSub now (lastAccess entry) < ttlMs := by
  have retained := (AList.keys_retain_sublist
    (fun _ entry => decide (saturatingSub now (lastAccess entry) < ttlMs)) table).length_le
  have within : ¬max < (retainFresh lastAccess now ttlMs table).keys.length :=
    Nat.not_lt.mpr (retained.trans fits)
  rw [clean, enforceLimit, if_neg within, retainFresh, AList.lookup_retain, tracked]
  by_cases fresh : saturatingSub now (lastAccess entry) < ttlMs <;> simp [fresh]

end Cleanup

namespace MetricsRegistry

theorem maybeCleanup_lookup_method (input : CleanupInput) (registry : MetricsRegistry)
    (method : String) (stats : MethodStats)
    (found : (registry.maybeCleanup input).methods.lookup method = some stats) :
    registry.methods.lookup method = some stats := by
  unfold maybeCleanup at found
  split at found
  next => exact Cleanup.lookup_of_clean _ _ _ _ _ _ method stats found
  next => exact found

theorem maybeCleanup_lookup_node (input : CleanupInput) (registry : MetricsRegistry)
    (nodeAddr : String) (stats : NodeStats)
    (found : (registry.maybeCleanup input).nodes.lookup nodeAddr = some stats) :
    registry.nodes.lookup nodeAddr = some stats := by
  unfold maybeCleanup at found
  split at found
  next => exact Cleanup.lookup_of_clean _ _ _ _ _ _ nodeAddr stats found
  next => exact found

/-! ## The stamps of the entries -/

theorem reading_le_timestamp (clock : TimestampClock) (reading : UInt64) :
    reading ≤ (clock.getMonotonicTimestamp (some reading)).2 := by
  show reading ≤ max reading (clock.lastTimestamp + 1)
  rw [UInt64.le_iff_toNat_le, toNat_max]
  exact Nat.le_max_left _ _

theorem onMethod_lookup (method other : String) (update : UInt64 → MethodStats → MethodStats)
    (time : Option UInt64) (registry : MetricsRegistry) :
    (registry.onMethod method update time).methods.lookup other =
      if other = method then
        (registry.methods.lookup other).map
          (update (registry.clock.getMonotonicTimestamp time).2)
      else registry.methods.lookup other :=
  AList.lookup_modify _ _ _ _

theorem methodEntry_lookup_other (method other : String) (time : Option UInt64)
    (registry : MetricsRegistry) (different : other ≠ method) :
    (registry.methodEntry method time).methods.lookup other = registry.methods.lookup other := by
  unfold methodEntry
  split
  next => rfl
  next => exact AList.lookup_insert_ne different

theorem methodEntry_nodes (method : String) (time : Option UInt64) (registry : MetricsRegistry) :
    (registry.methodEntry method time).nodes = registry.nodes := by
  unfold methodEntry
  split <;> rfl

theorem nodeEntry_lookup_other (nodeAddr other : String) (registry : MetricsRegistry)
    (different : other ≠ nodeAddr) :
    (registry.nodeEntry nodeAddr).nodes.lookup other = registry.nodes.lookup other := by
  unfold nodeEntry
  split
  next => rfl
  next => exact AList.lookup_insert_ne different

theorem nodeEntry_methods (nodeAddr : String) (registry : MetricsRegistry) :
    (registry.nodeEntry nodeAddr).methods = registry.methods := by
  unfold nodeEntry
  split <;> rfl

structure Stamped (history : List MetricsOperation) (registry : MetricsRegistry) : Prop where
  methods : ∀ method stats called, registry.methods.lookup method = some stats →
    latestReading (MetricsOperation.methodReading method) history = some called →
    called ≤ stats.lastAccessMs
  nodes : ∀ nodeAddr stats called, registry.nodes.lookup nodeAddr = some stats →
    latestReading (MetricsOperation.nodeReading nodeAddr) history = some called →
    called ≤ stats.lastRequestMs

theorem Stamped.cleanup {history : List MetricsOperation} {registry : MetricsRegistry}
    (stamped : Stamped history registry) (input : CleanupInput) :
    Stamped history (registry.maybeCleanup input) where
  methods method stats called found :=
    stamped.methods method stats called
      (maybeCleanup_lookup_method input registry method stats found)
  nodes nodeAddr stats called found :=
    stamped.nodes nodeAddr stats called
      (maybeCleanup_lookup_node input registry nodeAddr stats found)

theorem Stamped.opening {history : List MetricsOperation} {registry : MetricsRegistry}
    (stamped : Stamped history registry) (operation : MetricsOperation) :
    Stamped history (machine.run registry operation.opening) := by
  cases operation with
  | recordMethodCall method latencyUs success cleanup times =>
      cases success <;> exact ⟨stamped.methods, stamped.nodes⟩
  | recordNodeRequest nodeAddr cleanup time => exact stamped

theorem Stamped.recording {history : List MetricsOperation} {registry : MetricsRegistry}
    (stamped : Stamped history registry) (operation : MetricsOperation) :
    Stamped (history ++ [operation]) (machine.run registry operation.recording) := by
  cases operation with
  | recordMethodCall name latencyUs success cleanup times =>
      constructor
      · intro method stats called found latest
        simp only [MetricsOperation.recording, Machine.run_cons, Machine.run_nil, machine_step,
          onMethod_lookup] at found
        rw [latestReading_append, MetricsOperation.methodReading] at latest
        by_cases same : method = name
        · -- The last increment of the entry stamps it at this very call.
          rw [if_pos same, Option.map_eq_some_iff] at found
          obtain ⟨earlier, -, rfl⟩ := found
          rw [if_pos same.symm, Option.getD_some] at latest
          rw [latest]
          cases success <;> exact reading_le_timestamp _ called
        · rw [if_neg same, if_neg same, if_neg same,
            methodEntry_lookup_other name method _ _ same] at found
          rw [if_neg (Ne.symm same), Option.getD_none] at latest
          exact stamped.methods method stats called found latest
      · intro nodeAddr stats called found latest
        rw [latestReading_append] at latest
        refine stamped.nodes nodeAddr stats called ?_ latest
        rw [← methodEntry_nodes name times.created registry]
        exact found
  | recordNodeRequest addr cleanup time =>
      constructor
      · intro method stats called found latest
        rw [latestReading_append] at latest
        refine stamped.methods method stats called ?_ latest
        rw [← nodeEntry_methods addr registry]
        exact found
      · intro nodeAddr stats called found latest
        have looked : ((registry.nodeEntry addr).onNode addr NodeStats.recordRequest
            time).nodes.lookup nodeAddr = some stats := found
        rw [onNode, AList.lookup_modify] at looked
        rw [latestReading_append, MetricsOperation.nodeReading] at latest
        by_cases same : nodeAddr = addr
        · rw [if_pos same, Option.map_eq_some_iff] at looked
          obtain ⟨earlier, -, rfl⟩ := looked
          rw [if_pos same.symm, Option.getD_some] at latest
          rw [latest]
          exact reading_le_timestamp _ called
        · rw [if_neg same, nodeEntry_lookup_other addr nodeAddr registry same] at looked
          rw [if_neg (Ne.symm same), Option.getD_none] at latest
          exact stamped.nodes nodeAddr stats called looked latest

theorem Stamped.perform {history : List MetricsOperation} {registry : MetricsRegistry}
    (stamped : Stamped history registry) (operation : MetricsOperation) :
    Stamped (history ++ [operation]) (registry.perform operation) := by
  rw [MetricsRegistry.perform, MetricsOperation.stages, Machine.run_append]
  exact ((stamped.opening operation).cleanup operation.cleanup).recording operation

theorem record_stamped (config : MetricsConfig) (clock : TimestampClock)
    (history : List MetricsOperation) :
    Stamped history ((withConfig config clock).record history) := by
  induction history using List.reverseRecOn with
  | nil =>
      constructor
      · intro method stats called found
        cases found
      · intro nodeAddr stats called found
        cases found
  | append_singleton history operation ih =>
      rw [record_append]
      exact ih.perform operation

/-! ## Recent entries at a cleanup -/

def beforeCleanup (config : MetricsConfig) (clock : TimestampClock)
    (history : List MetricsOperation) (operation : MetricsOperation) : MetricsRegistry :=
  machine.run ((withConfig config clock).record history) operation.opening

structure KeepsRecent (history : List MetricsOperation) (operation : MetricsOperation)
    (registry : MetricsRegistry) : Prop where
  methods : ∀ now, operation.cleanup.time = some now →
    ∀ method stats, registry.methods.lookup method = some stats →
    Recent (latestReading (MetricsOperation.methodReading method) history) now
      registry.config.methodTtlSecs →
    (registry.maybeCleanup operation.cleanup).methods.lookup method ≠ none
  nodes : ∀ now, operation.cleanup.time = some now →
    ∀ nodeAddr stats, registry.nodes.lookup nodeAddr = some stats →
    Recent (latestReading (MetricsOperation.nodeReading nodeAddr) history) now
      registry.config.nodeTtlSecs →
    (registry.maybeCleanup operation.cleanup).nodes.lookup nodeAddr ≠ none

/-- The next timestamp is not a whole TTL past the stamp of an entry. The product wraps
for a TTL of 2^64 milliseconds or more. -/
def InTime (registry : MetricsRegistry) (now ttlSecs lastAccess : UInt64) : Prop :=
  saturatingSub (registry.clock.lastTimestamp + 1) lastAccess < ttlSecs * 1000 ∧
    (UInt64.size ≤ ttlSecs.toNat * 1000 → saturatingSub now lastAccess < ttlSecs * 1000)

structure Unhurried (history : List MetricsOperation) (operation : MetricsOperation)
    (registry : MetricsRegistry) : Prop where
  methods : registry.cleanupDue = true → ∀ now, operation.cleanup.time = some now →
    ∀ method stats, registry.methods.lookup method = some stats →
    Recent (latestReading (MetricsOperation.methodReading method) history) now
      registry.config.methodTtlSecs →
    registry.InTime now registry.config.methodTtlSecs stats.lastAccessMs
  nodes : registry.cleanupDue = true → ∀ now, operation.cleanup.time = some now →
    ∀ nodeAddr stats, registry.nodes.lookup nodeAddr = some stats →
    Recent (latestReading (MetricsOperation.nodeReading nodeAddr) history) now
      registry.config.nodeTtlSecs →
    registry.InTime now registry.config.nodeTtlSecs stats.lastRequestMs

theorem inTime_iff (registry : MetricsRegistry) (now ttlSecs lastAccess called : UInt64)
    (earlier : called ≤ now) (recent : now.toNat < called.toNat + ttlSecs.toNat * 1000)
    (stamped : called ≤ lastAccess) :
    saturatingSub (registry.clock.getMonotonicTimestamp (some now)).2 lastAccess <
        ttlSecs * 1000 ↔
      registry.InTime now ttlSecs lastAccess := by
  have issued : (registry.clock.getMonotonicTimestamp (some now)).2 =
    max now (registry.clock.lastTimestamp + 1) := rfl
  rw [issued, saturatingSub_max_lt, and_comm, InTime]
  refine and_congr_right fun _ => ⟨fun held _ => held, fun wrapped => ?_⟩
  by_cases overflows : UInt64.size ≤ ttlSecs.toNat * 1000
  · exact wrapped overflows
  · -- Without the wrap a call that recent is stamped late enough for the system clock.
    have product : (ttlSecs * 1000).toNat = ttlSecs.toNat * 1000 := by
      rw [UInt64.toNat_mul]
      exact Nat.mod_eq_of_lt (Nat.lt_of_not_le overflows)
    have before := UInt64.le_iff_toNat_le.mp earlier
    have later := UInt64.le_iff_toNat_le.mp stamped
    rw [UInt64.lt_iff_toNat_lt, saturatingSub_toNat, product]
    omega

theorem keepsRecent_iff_unhurried (history : List MetricsOperation)
    (operation : MetricsOperation) (registry : MetricsRegistry) (fits : registry.WithinLimits)
    (stamped : Stamped history registry) :
    KeepsRecent history operation registry ↔ Unhurried history operation registry := by
  by_cases due : registry.cleanupDue
  · have methods (now : UInt64) (cleaned : operation.cleanup.time = some now) (method : String)
        (stats : MethodStats) (tracked : registry.methods.lookup method = some stats)
        (recent : Recent (latestReading (MetricsOperation.methodReading method) history) now
          registry.config.methodTtlSecs) :
        (registry.maybeCleanup operation.cleanup).methods.lookup method ≠ none ↔
          registry.InTime now registry.config.methodTtlSecs stats.lastAccessMs := by
      obtain ⟨called, latest, earlier, recent⟩ := recent
      rw [← inTime_iff registry now _ _ called earlier recent
        (stamped.methods method stats called tracked latest), maybeCleanup, if_pos due]
      dsimp only [cleanupStaleEntries]
      rw [cleaned]
      exact Cleanup.clean_keeps_iff _ _ _ _ _ _ fits.1 method stats tracked
    have nodes (now : UInt64) (cleaned : operation.cleanup.time = some now) (nodeAddr : String)
        (stats : NodeStats) (tracked : registry.nodes.lookup nodeAddr = some stats)
        (recent : Recent (latestReading (MetricsOperation.nodeReading nodeAddr) history) now
          registry.config.nodeTtlSecs) :
        (registry.maybeCleanup operation.cleanup).nodes.lookup nodeAddr ≠ none ↔
          registry.InTime now registry.config.nodeTtlSecs stats.lastRequestMs := by
      obtain ⟨called, latest, earlier, recent⟩ := recent
      rw [← inTime_iff registry now _ _ called earlier recent
        (stamped.nodes nodeAddr stats called tracked latest), maybeCleanup, if_pos due]
      dsimp only [cleanupStaleEntries]
      rw [cleaned]
      exact Cleanup.clean_keeps_iff _ _ _ _ _ _ fits.2 nodeAddr stats tracked
    constructor
    · intro keeps
      exact ⟨fun _ now cleaned method stats tracked recent =>
          (methods now cleaned method stats tracked recent).mp
            (keeps.methods now cleaned method stats tracked recent),
        fun _ now cleaned nodeAddr stats tracked recent =>
          (nodes now cleaned nodeAddr stats tracked recent).mp
            (keeps.nodes now cleaned nodeAddr stats tracked recent)⟩
    · intro unhurried
      exact ⟨fun now cleaned method stats tracked recent =>
          (methods now cleaned method stats tracked recent).mpr
            (unhurried.methods due now cleaned method stats tracked recent),
        fun now cleaned nodeAddr stats tracked recent =>
          (nodes now cleaned nodeAddr stats tracked recent).mpr
            (unhurried.nodes due now cleaned nodeAddr stats tracked recent)⟩
  · -- Nothing is removed where no cleanup is due.
    have kept : registry.maybeCleanup operation.cleanup =
        { registry with cleanupCounter := registry.cleanupCounter + 1 } := by
      rw [maybeCleanup, if_neg due]
    constructor
    · intro _
      exact ⟨fun dues => absurd dues due, fun dues => absurd dues due⟩
    · intro _
      constructor
      · intro now cleaned method stats tracked recent
        rw [kept]
        simp [tracked]
      · intro now cleaned nodeAddr stats tracked recent
        rw [kept]
        simp [tracked]

theorem beforeCleanup_stamped (config : MetricsConfig) (clock : TimestampClock)
    (history : List MetricsOperation) (operation : MetricsOperation) :
    Stamped history (beforeCleanup config clock history operation) :=
  (record_stamped config clock history).opening operation

theorem beforeCleanup_of_throughout (property : MetricsRegistry → Prop) (config : MetricsConfig)
    (clock : TimestampClock) (history : List MetricsOperation) (operation : MetricsOperation)
    (rest : List MetricsOperation)
    (throughout : machine.Throughout property (withConfig config clock)
      ((history ++ operation :: rest).flatMap MetricsOperation.stages)) :
    property (beforeCleanup config clock history operation) := by
  rw [List.flatMap_append, List.flatMap_cons, MetricsOperation.stages, List.append_assoc,
    Machine.throughout_append, Machine.throughout_append] at throughout
  exact throughout.2.1.last

theorem recent_kept_iff_unhurried (config : MetricsConfig) (clock : TimestampClock)
    (operations : List MetricsOperation)
    (fits : machine.Throughout WithinLimits (withConfig config clock)
      (operations.flatMap MetricsOperation.stages)) :
    (∀ history operation rest, operations = history ++ operation :: rest →
        KeepsRecent history operation (beforeCleanup config clock history operation)) ↔
      ∀ history operation rest, operations = history ++ operation :: rest →
        Unhurried history operation (beforeCleanup config clock history operation) := by
  have pointwise history operation rest (split : operations = history ++ operation :: rest) :
      KeepsRecent history operation (beforeCleanup config clock history operation) ↔
        Unhurried history operation (beforeCleanup config clock history operation) := by
    refine keepsRecent_iff_unhurried history operation _ ?_
      (beforeCleanup_stamped config clock history operation)
    rw [split] at fits
    exact beforeCleanup_of_throughout _ config clock history operation rest fits
  exact ⟨fun keeps history operation rest split =>
      (pointwise history operation rest split).mp (keeps history operation rest split),
    fun unhurried history operation rest split =>
      (pointwise history operation rest split).mpr (unhurried history operation rest split)⟩

/-! ## A call and a burst of requests in one millisecond -/

namespace Burst

def config : MetricsConfig where
  maxMethods := 1
  maxNodes := 1
  methodTtlSecs := 1
  nodeTtlSecs := 1

/-- A TTL of more milliseconds than there are operations between two cleanups. -/
def patient : MetricsConfig where
  maxMethods := 1
  maxNodes := 1
  methodTtlSecs := 2
  nodeTtlSecs := 2

def instant : Option UInt64 := some 5000

def call : MetricsOperation :=
  .recordMethodCall "sum" 7 true ⟨instant, [], []⟩ ⟨instant, instant, instant, instant⟩

def request : MetricsOperation :=
  .recordNodeRequest "http://node" ⟨instant, [], []⟩ instant

theorem call_uses : call.Uses ["sum"] ["http://node"] := List.mem_singleton_self "sum"

theorem request_uses : request.Uses ["sum"] ["http://node"] :=
  List.mem_singleton_self "http://node"

def history : List MetricsOperation :=
  call :: List.replicate 999 request

def called (config : MetricsConfig) : MetricsRegistry :=
  (withConfig config .initial).perform call

section

variable {config : MetricsConfig}

structure After (config : MetricsConfig) (requests : Nat) (registry : MetricsRegistry) : Prop where
  counter : registry.cleanupCounter.toNat = requests + 1
  timestamp : registry.clock.lastTimestamp.toNat = 5004 + requests
  methods : registry.methods = (called config).methods
  configured : registry.config = config

theorem not_due {requests : Nat} {registry : MetricsRegistry}
    (after : After config requests registry)
    (fewer : requests < 999) : ¬registry.cleanupDue = true := by
  rw [cleanupDue, decide_eq_true_iff, ← UInt64.toNat_inj, UInt64.toNat_mod, after.counter]
  intro due
  have remainder : (requests + 1) % 1000 = 0 := due
  omega

theorem request_after {requests : Nat} {registry : MetricsRegistry}
    (after : After config requests registry) (fewer : requests < 999) :
    After config (requests + 1) (registry.perform request) := by
  have counter := after.counter
  have timestamp := after.timestamp
  have counted : (registry.cleanupCounter + 1).toNat = requests + 2 := by
    rw [toNat_succ (by omega), counter]
  have issued : (max 5000 (registry.clock.lastTimestamp + 1)).toNat = 5004 + (requests + 1) := by
    have reading : (5000 : UInt64).toNat = 5000 := rfl
    rw [toNat_max, toNat_succ (by omega), timestamp, reading]
    omega
  have quiet : registry.maybeCleanup ⟨instant, [], []⟩ =
      { registry with cleanupCounter := registry.cleanupCounter + 1 } := by
    rw [maybeCleanup, if_neg (not_due after fewer)]
  have performed : registry.perform request =
      ((registry.maybeCleanup ⟨instant, [], []⟩).nodeEntry "http://node").onNode "http://node"
        NodeStats.recordRequest instant := rfl
  rw [performed, quiet]
  unfold nodeEntry
  split
  next => exact ⟨counted, issued, after.methods, after.configured⟩
  next => exact ⟨counted, issued, after.methods, after.configured⟩

theorem called_after (config : MetricsConfig) : After config 0 (called config) where
  counter := rfl
  timestamp := rfl
  methods := rfl
  configured := rfl

theorem requests_after (config : MetricsConfig) (requests : Nat) (few : requests ≤ 999) :
    After config requests ((called config).record (List.replicate requests request)) := by
  induction requests with
  | zero =>
      have unchanged : (called config).record [] = called config := Machine.run_nil _ _
      rw [List.replicate_zero, unchanged]
      exact called_after config
  | succ requests ih =>
      rw [List.replicate_succ', record_append]
      exact request_after (ih (by omega)) (by omega)

end

theorem history_uses (operation : MetricsOperation) (member : operation ∈ history ++ [request]) :
    operation.Uses ["sum"] ["http://node"] := by
  simp only [history, List.cons_append, List.mem_cons, List.mem_append, List.mem_replicate,
    List.not_mem_nil, or_false] at member
  obtain rfl | ⟨-, rfl⟩ | rfl := member
  · exact call_uses
  · exact request_uses
  · exact request_uses

theorem history_readings (operation : MetricsOperation)
    (member : operation ∈ history ++ [request]) :
    ∀ reading ∈ operation.readings, reading = instant := by
  simp only [history, List.cons_append, List.mem_cons, List.mem_append, List.mem_replicate,
    List.not_mem_nil, or_false] at member
  obtain rfl | ⟨-, rfl⟩ | rfl := member
  · simp [call, MetricsOperation.readings]
  · simp [request, MetricsOperation.readings]
  · simp [request, MetricsOperation.readings]

theorem latestReading_requests (reading : MetricsOperation → Option (Option UInt64))
    (other : reading request = none) (requests : Nat) :
    latestReading reading (call :: List.replicate requests request) =
      latestReading reading [call] := by
  induction requests with
  | zero => rfl
  | succ requests ih =>
      rw [List.replicate_succ', ← List.cons_append, latestReading_append, other, ih,
        Option.getD_none]

theorem beforeCleanup_requests (config : MetricsConfig) (requests : Nat) :
    beforeCleanup config .initial (call :: List.replicate requests request) request =
      (called config).record (List.replicate requests request) := by
  have opening : request.opening = [] := rfl
  rw [beforeCleanup, opening, Machine.run_nil, record_cons, called]

theorem latestReading_history :
    latestReading (MetricsOperation.methodReading "sum") history = some 5000 := by
  rw [history, latestReading_requests _ rfl]
  rfl

theorem latestReading_instant {reading : MetricsOperation → Option (Option UInt64)}
    (taken : ∀ operation time, reading operation = some time → time ∈ operation.readings)
    {operations : List MetricsOperation} {called : UInt64}
    (known : ∀ operation ∈ operations, ∀ time ∈ operation.readings, time = instant)
    (latest : latestReading reading operations = some called) : called = 5000 := by
  induction operations using List.reverseRecOn with
  | nil => cases latest
  | append_singleton operations operation ih =>
      rw [latestReading_append] at latest
      obtain ⟨earlier, last⟩ := List.forall_mem_append.mp known
      cases here : reading operation with
      | none =>
          rw [here, Option.getD_none] at latest
          exact ih earlier latest
      | some time =>
          rw [here, Option.getD_some,
            last operation List.mem_cons_self time (taken operation time here)] at latest
          exact (Option.some.inj latest).symm

theorem methodReading_mem (method : String) (operation : MetricsOperation)
    (time : Option UInt64) (read : operation.methodReading method = some time) :
    time ∈ operation.readings := by
  cases operation with
  | recordNodeRequest => cases read
  | recordMethodCall name latencyUs success cleanup times =>
      obtain ⟨-, ⟨⟩⟩ := Option.ite_none_right_eq_some.mp read
      simp [MetricsOperation.readings]

theorem nodeReading_mem (nodeAddr : String) (operation : MetricsOperation)
    (time : Option UInt64) (read : operation.nodeReading nodeAddr = some time) :
    time ∈ operation.readings := by
  cases operation with
  | recordMethodCall => cases read
  | recordNodeRequest name cleanup settled =>
      obtain ⟨-, ⟨⟩⟩ := Option.ite_none_right_eq_some.mp read
      simp [MetricsOperation.readings]

theorem After.inTime {requests : Nat} {registry : MetricsRegistry}
    (after : After patient requests registry) (few : requests ≤ 999) {stamp : UInt64}
    (stamped : 5000 ≤ stamp) : registry.InTime 5000 2 stamp := by
  have timestamp := after.timestamp
  have reading : (5000 : UInt64).toNat = 5000 := rfl
  have ttl : ((2 : UInt64) * 1000).toNat = 2000 := rfl
  rw [UInt64.le_iff_toNat_le, reading] at stamped
  constructor
  · rw [UInt64.lt_iff_toNat_lt, saturatingSub_toNat, toNat_succ (by omega), timestamp, ttl]
    omega
  · rw [UInt64.lt_iff_toNat_lt, saturatingSub_toNat, reading, ttl]
    omega

theorem requests_unhurried {requests : Nat} (few : requests ≤ 999) :
    Unhurried (call :: List.replicate requests request) request
      (beforeCleanup patient .initial (call :: List.replicate requests request) request) := by
  have after := requests_after patient requests few
  have stamped := beforeCleanup_stamped patient .initial
    (call :: List.replicate requests request) request
  have known (operation : MetricsOperation)
      (member : operation ∈ call :: List.replicate requests request) :
      ∀ time ∈ operation.readings, time = instant := by
    refine history_readings operation ?_
    rcases List.mem_cons.mp member with rfl | later
    · exact List.mem_cons_self
    · rw [(List.mem_replicate.mp later).2]
      exact List.mem_append_right _ List.mem_cons_self
  rw [← beforeCleanup_requests] at after
  generalize beforeCleanup patient .initial _ request = registry at after stamped ⊢
  constructor
  · rintro - now cleaned method stats tracked ⟨called, latest, -, -⟩
    obtain rfl : 5000 = now := Option.some.inj cleaned
    rw [after.configured]
    have stamp := stamped.methods method stats called tracked latest
    rw [latestReading_instant (methodReading_mem method) known latest] at stamp
    exact after.inTime few stamp
  · rintro - now cleaned nodeAddr stats tracked ⟨called, latest, -, -⟩
    obtain rfl : 5000 = now := Option.some.inj cleaned
    rw [after.configured]
    have stamp := stamped.nodes nodeAddr stats called tracked latest
    rw [latestReading_instant (nodeReading_mem nodeAddr) known latest] at stamp
    exact after.inTime few stamp

theorem run_unhurried (before : List MetricsOperation) (operation : MetricsOperation)
    (rest : List MetricsOperation) (split : history ++ [request] = before ++ operation :: rest) :
    Unhurried before operation (beforeCleanup patient .initial before operation) := by
  cases before with
  | nil =>
      -- Nothing is tracked before the call.
      obtain ⟨rfl, -⟩ := List.cons_eq_cons.mp split
      constructor
      · intro _ _ _ method stats tracked
        cases tracked
      · intro _ _ _ nodeAddr stats tracked
        cases tracked
  | cons first before =>
      obtain ⟨rfl, later⟩ := List.cons_eq_cons.mp split
      have requests : List.replicate 999 request ++ [request] = before ++ operation :: rest := later
      rw [← List.replicate_succ'] at requests
      obtain ⟨length, earlier, last⟩ := List.append_eq_replicate_iff.mp requests.symm
      rw [List.length_cons] at length last
      obtain ⟨rfl, -⟩ := List.cons_eq_cons.mp (last.trans List.replicate_succ)
      rw [earlier]
      exact requests_unhurried (by omega)

theorem keeps_recent :
    (beforeCleanup patient .initial history request).cleanupDue = true ∧
      ((beforeCleanup patient .initial history request).maybeCleanup
        request.cleanup).methods.lookup "sum" ≠ none := by
  have kept := (recent_kept_iff_unhurried patient .initial (history ++ [request])
    (few_names_within_limits patient .initial _ history_uses (Nat.le_refl 1)
      (Nat.le_refl 1))).mpr run_unhurried history request [] rfl
  have after := requests_after patient 999 (Nat.le_refl _)
  rw [← beforeCleanup_requests] at after
  have due : (beforeCleanup patient .initial history request).cleanupDue = true := by
    rw [cleanupDue, decide_eq_true_iff, ← UInt64.toNat_inj, UInt64.toNat_mod, history,
      after.counter]
    rfl
  refine ⟨due, ?_⟩
  have stats : ((called patient).methods.lookup "sum").isSome = true := by decide
  obtain ⟨entry, tracked⟩ := Option.isSome_iff_exists.mp stats
  rw [← after.methods] at tracked
  refine kept.methods 5000 rfl "sum" entry tracked ?_
  rw [history, after.configured]
  exact ⟨5000, latestReading_history, by decide, by decide⟩

theorem evicts_recent :
    (∀ reading ∈ (history ++ [request]).flatMap MetricsOperation.readings,
        reading = some 5000) ∧
      machine.Throughout WithinLimits (withConfig config .initial)
        ((history ++ [request]).flatMap MetricsOperation.stages) ∧
      ¬KeepsRecent history request (beforeCleanup config .initial history request) := by
  have fits : machine.Throughout WithinLimits (withConfig config .initial)
      ((history ++ [request]).flatMap MetricsOperation.stages) :=
    few_names_within_limits config .initial _ history_uses (Nat.le_refl 1) (Nat.le_refl 1)
  refine ⟨?_, fits, ?_⟩
  · intro reading member
    obtain ⟨operation, recorded, member⟩ := List.mem_flatMap.mp member
    exact history_readings operation recorded reading member
  · intro keeps
    have unhurried := (keepsRecent_iff_unhurried history request _
      (beforeCleanup_of_throughout _ _ _ history request [] fits)
      (beforeCleanup_stamped config .initial history request)).mp keeps
    rw [history, beforeCleanup_requests] at unhurried
    have after := requests_after config 999 (Nat.le_refl _)
    generalize (called config).record (List.replicate 999 request) = registry at unhurried after
    obtain ⟨counter, timestamp, methods, configured⟩ := after
    have due : registry.cleanupDue = true := by
      rw [cleanupDue, decide_eq_true_iff, ← UInt64.toNat_inj, UInt64.toNat_mod, counter]
      rfl
    have stats : ((called config).methods.lookup "sum").map MethodStats.lastAccessMs =
        some 5004 := by
      decide
    obtain ⟨entry, tracked, stamp⟩ := Option.map_eq_some_iff.mp stats
    have late := (unhurried.methods due 5000 rfl "sum" entry (methods ▸ tracked) (by
      rw [configured]
      exact ⟨5000, latestReading_history, by decide, by decide⟩)).1
    rw [stamp, configured, UInt64.lt_iff_toNat_lt, saturatingSub_toNat,
      toNat_succ (by omega), timestamp] at late
    exact absurd late (by decide)

end Burst

end MetricsRegistry

end MadRpc
