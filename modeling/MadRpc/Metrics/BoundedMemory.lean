import MadRpc.Metrics.Registry

set_option autoImplicit false

namespace MadRpc

namespace Cleanup

variable {Entry : Type} (lastAccess : Entry → UInt64)

theorem oldestFirst_keys_perm (order : List String) (table : AList fun _ : String => Entry) :
    ((oldestFirst lastAccess order table).map Sigma.fst).Perm table.keys :=
  ((List.perm_insertionSort _ _).trans (List.perm_insertionSort _ table.entries)).map _

theorem erase_entries_length (entries : List (Sigma fun _ : String => Entry))
    (table : AList fun _ : String => Entry) (distinct : (entries.map Sigma.fst).Nodup)
    (known : ∀ entry ∈ entries, entry.1 ∈ table.keys) :
    (entries.foldl (fun table entry => table.erase entry.1) table).keys.length + entries.length =
      table.keys.length := by
  induction entries generalizing table with
  | nil => rfl
  | cons entry rest ih =>
      obtain ⟨fresh, distinct⟩ := List.nodup_cons.mp distinct
      have here := known entry List.mem_cons_self
      -- The later names are not the one that leaves now.
      have later := ih (table.erase entry.1) distinct fun other member => by
        rw [AList.keys_erase, table.keys_nodup.mem_erase_iff]
        refine ⟨?_, known other (List.mem_cons_of_mem entry member)⟩
        rintro same
        exact fresh (same ▸ List.mem_map_of_mem member)
      have positive := List.length_pos_of_mem here
      rw [AList.keys_erase, List.length_erase_of_mem here] at later
      rw [List.foldl_cons, List.length_cons]
      omega

theorem enforceLimit_eq (max : Nat) (order : List String)
    (table : AList fun _ : String => Entry) :
    enforceLimit lastAccess max order table =
      ((oldestFirst lastAccess order table).take (table.keys.length - max)).foldl
        (fun table entry => table.erase entry.1) table := by
  unfold enforceLimit
  split
  next => rfl
  next fits =>
    rw [Nat.sub_eq_zero_of_le (Nat.le_of_not_lt fits)]
    rfl

theorem enforceLimit_length (max : Nat) (order : List String)
    (table : AList fun _ : String => Entry) :
    (enforceLimit lastAccess max order table).keys.length = min max table.keys.length := by
  have sorted := oldestFirst_keys_perm lastAccess order table
  rw [enforceLimit_eq]
  generalize oldestFirst lastAccess order table = entries at sorted
  have whole := sorted.length_eq
  have taken := List.take_sublist (table.keys.length - max) entries
  have removed := erase_entries_length (entries.take (table.keys.length - max)) table
    ((taken.map _).nodup (sorted.nodup_iff.mpr table.keys_nodup)) fun entry member =>
      sorted.mem_iff.mp (List.mem_map_of_mem (taken.subset member))
  rw [List.length_take] at removed
  rw [List.length_map] at whole
  omega

theorem enforceLimit_length_le (max : Nat) (order : List String)
    (table : AList fun _ : String => Entry) :
    (enforceLimit lastAccess max order table).keys.length ≤ max :=
  (enforceLimit_length lastAccess max order table).trans_le (Nat.min_le_left max _)

theorem foldl_erase_keys_subset (entries : List (Sigma fun _ : String => Entry))
    (table : AList fun _ : String => Entry) :
    (entries.foldl (fun table entry => table.erase entry.1) table).keys ⊆ table.keys := by
  induction entries generalizing table with
  | nil => exact List.Subset.refl _
  | cons entry rest ih =>
      have fewer := ih (table.erase entry.1)
      rw [AList.keys_erase] at fewer
      exact List.Subset.trans fewer List.erase_subset

theorem clean_keys_subset (now ttlMs : UInt64) (max : Nat) (order : List String)
    (table : AList fun _ : String => Entry) :
    (clean lastAccess now ttlMs max order table).keys ⊆ table.keys := by
  have retained : (retainFresh lastAccess now ttlMs table).keys ⊆ table.keys :=
    (AList.keys_retain_sublist _ table).subset
  rw [clean, enforceLimit_eq]
  exact List.Subset.trans (foldl_erase_keys_subset _ _) retained

end Cleanup

namespace MetricsOperation

def Uses (methodNames nodeNames : List String) : MetricsOperation → Prop
  | recordMethodCall method _ _ _ _ => method ∈ methodNames
  | recordNodeRequest nodeAddr _ _ => nodeAddr ∈ nodeNames

end MetricsOperation

namespace MetricsRegistry

/-- How many calls may have passed since a cleanup when the counter has a value. -/
def gap (counter : UInt64) : Nat :=
  if counter % CLEANUP_INTERVAL = 0 then 1000 else (counter % CLEANUP_INTERVAL).toNat

structure Bounded (config : MetricsConfig) (slack : Nat) (registry : MetricsRegistry) : Prop where
  methods : registry.methods.keys.length + slack ≤
    config.maxMethods + gap registry.cleanupCounter
  nodes : registry.nodes.keys.length + slack ≤ config.maxNodes + gap registry.cleanupCounter
  configured : registry.config = config

structure SameKeys (before after : MetricsRegistry) : Prop where
  methods : after.methods.keys = before.methods.keys
  nodes : after.nodes.keys = before.nodes.keys
  counter : after.cleanupCounter = before.cleanupCounter
  config : after.config = before.config

theorem gap_le (counter : UInt64) : gap counter ≤ 1000 := by
  unfold gap CLEANUP_INTERVAL
  split
  · exact Nat.le_refl _
  · rw [UInt64.toNat_mod]
    exact Nat.le_of_lt (Nat.mod_lt _ (by decide))

theorem gap_eq (counter : UInt64) :
    gap counter = if counter.toNat % 1000 = 0 then 1000 else counter.toNat % 1000 := by
  have remainder : (counter % CLEANUP_INTERVAL).toNat = counter.toNat % 1000 :=
    UInt64.toNat_mod counter CLEANUP_INTERVAL
  have due : counter % CLEANUP_INTERVAL = 0 ↔ counter.toNat % 1000 = 0 := by
    rw [← UInt64.toNat_inj, remainder]
    rfl
  simp only [gap, due, remainder]

theorem gap_pos (counter : UInt64) : 1 ≤ gap counter := by
  rw [gap_eq]
  split <;> omega

theorem gap_succ (counter : UInt64) (quiet : counter % CLEANUP_INTERVAL ≠ 0) :
    gap counter + 1 ≤ gap (counter + 1) := by
  have bounded := counter.toNat_lt
  have counting : counter.toNat % 1000 ≠ 0 := by
    intro due
    apply quiet
    rw [← UInt64.toNat_inj, UInt64.toNat_mod]
    exact due
  rw [gap_eq, gap_eq, if_neg counting]
  by_cases last : counter.toNat + 1 = 2 ^ 64
  · -- Past the last value the counter is zero again, and a cleanup comes sooner.
    have wrapped : (counter + 1).toNat = (counter.toNat + 1) % 2 ^ 64 :=
      UInt64.toNat_add counter 1
    rw [wrapped, last]
    exact Nat.mod_lt _ (by decide)
  · rw [toNat_succ (by omega)]
    split <;> omega

variable {config : MetricsConfig}

theorem Bounded.same {slack : Nat} {before after : MetricsRegistry}
    (bounded : Bounded config slack before) (same : SameKeys before after) :
    Bounded config slack after := by
  constructor
  · rw [same.methods, same.counter]
    exact bounded.methods
  · rw [same.nodes, same.counter]
    exact bounded.nodes
  · exact same.config.trans bounded.configured

theorem Bounded.weaken {registry : MetricsRegistry} (bounded : Bounded config 1 registry) :
    Bounded config 0 registry :=
  ⟨Nat.le_of_succ_le bounded.methods, Nat.le_of_succ_le bounded.nodes, bounded.configured⟩

theorem incrementOutcome_sameKeys (success : Bool) (registry : MetricsRegistry) :
    SameKeys registry (registry.incrementOutcome success) := by
  cases success <;> exact ⟨rfl, rfl, rfl, rfl⟩

theorem onMethod_sameKeys (method : String) (update : UInt64 → MethodStats → MethodStats)
    (time : Option UInt64) (registry : MetricsRegistry) :
    SameKeys registry (registry.onMethod method update time) :=
  ⟨AList.keys_modify _ _ _, rfl, rfl, rfl⟩

theorem onNode_sameKeys (nodeAddr : String) (update : UInt64 → NodeStats → NodeStats)
    (time : Option UInt64) (registry : MetricsRegistry) :
    SameKeys registry (registry.onNode nodeAddr update time) :=
  ⟨rfl, AList.keys_modify _ _ _, rfl, rfl⟩

theorem maybeCleanup_bounded (input : CleanupInput) (registry : MetricsRegistry)
    (bounded : Bounded config 0 registry) : Bounded config 1 (registry.maybeCleanup input) := by
  obtain ⟨methods, nodes, rfl⟩ := bounded
  unfold maybeCleanup
  split
  next due =>
    -- The limits hold again, and the counter has left the multiple of the interval.
    have room := gap_pos (registry.cleanupCounter + 1)
    exact ⟨Nat.add_le_add (Cleanup.enforceLimit_length_le _ _ _ _) room,
      Nat.add_le_add (Cleanup.enforceLimit_length_le _ _ _ _) room, rfl⟩
  next quiet =>
    have room := gap_succ registry.cleanupCounter fun due => quiet (decide_eq_true due)
    refine ⟨?_, ?_, rfl⟩
    · dsimp only
      omega
    · dsimp only
      omega

theorem methodEntry_bounded (method : String) (time : Option UInt64) (registry : MetricsRegistry)
    (bounded : Bounded config 1 registry) :
    Bounded config 0 (registry.methodEntry method time) := by
  unfold methodEntry
  split
  next => exact bounded.weaken
  next absent =>
    refine ⟨?_, bounded.weaken.nodes, bounded.configured⟩
    rw [AList.keys_insert_absent _ _ _ absent]
    exact bounded.methods

theorem nodeEntry_bounded (nodeAddr : String) (registry : MetricsRegistry)
    (bounded : Bounded config 1 registry) : Bounded config 0 (registry.nodeEntry nodeAddr) := by
  unfold nodeEntry
  split
  next => exact bounded.weaken
  next absent =>
    refine ⟨bounded.weaken.methods, ?_, bounded.configured⟩
    rw [AList.keys_insert_absent _ _ _ absent]
    exact bounded.nodes

theorem opening_bounded (operation : MetricsOperation) (registry : MetricsRegistry)
    (bounded : Bounded config 0 registry) :
    machine.Throughout (Bounded config 0) registry operation.opening := by
  cases operation with
  | recordMethodCall method latencyUs success cleanup times =>
      have total : Bounded config 0 registry.incrementTotal :=
        bounded.same ⟨rfl, rfl, rfl, rfl⟩
      exact ⟨bounded, total, total.same (incrementOutcome_sameKeys success _)⟩
  | recordNodeRequest nodeAddr cleanup time => exact bounded

theorem recording_bounded (operation : MetricsOperation) (registry : MetricsRegistry)
    (bounded : Bounded config 1 registry) :
    machine.Throughout (Bounded config 0) registry operation.recording := by
  cases operation with
  | recordMethodCall method latencyUs success cleanup times =>
      have entered := methodEntry_bounded method times.created registry bounded
      have called := entered.same
        (onMethod_sameKeys method MethodStats.incrementCall times.called _)
      have recorded := called.same
        (onMethod_sameKeys method (MethodStats.recordLatency latencyUs) times.recorded _)
      exact ⟨bounded.weaken, entered, called, recorded,
        recorded.same (onMethod_sameKeys method _ times.settled _)⟩
  | recordNodeRequest nodeAddr cleanup time =>
      have entered := nodeEntry_bounded nodeAddr registry bounded
      exact ⟨bounded.weaken, entered,
        entered.same (onNode_sameKeys nodeAddr NodeStats.recordRequest time _)⟩

theorem stages_bounded (operation : MetricsOperation) (registry : MetricsRegistry)
    (bounded : Bounded config 0 registry) :
    machine.Throughout (Bounded config 0) registry operation.stages := by
  have opened := opening_bounded operation registry bounded
  have cleaned := maybeCleanup_bounded operation.cleanup _ opened.last
  exact (machine.throughout_append _ _ _ _).mpr
    ⟨opened, opened.last, recording_bounded operation _ cleaned⟩

theorem operations_bounded (operations : List MetricsOperation) (registry : MetricsRegistry)
    (bounded : Bounded config 0 registry) :
    machine.Throughout (Bounded config 0) registry
      (operations.flatMap MetricsOperation.stages) :=
  machine.throughout_flatMap _ _ operations (fun operation _ => stages_bounded operation) registry
    bounded

theorem tracked_bounded (config : MetricsConfig) (clock : TimestampClock)
    (operations : List MetricsOperation) :
    machine.Throughout
      (fun registry => registry.methods.keys.length ≤ config.maxMethods + 1000 ∧
        registry.nodes.keys.length ≤ config.maxNodes + 1000)
      (withConfig config clock) (operations.flatMap MetricsOperation.stages) := by
  have start : Bounded config 0 (withConfig config clock) :=
    ⟨Nat.zero_le _, Nat.zero_le _, rfl⟩
  refine (operations_bounded operations _ start).mono ?_
  intro registry bounded
  have interval := gap_le registry.cleanupCounter
  exact ⟨bounded.methods.trans (Nat.add_le_add_left interval _),
    bounded.nodes.trans (Nat.add_le_add_left interval _)⟩

structure Named (config : MetricsConfig) (methodNames nodeNames : List String)
    (registry : MetricsRegistry) : Prop where
  methods : registry.methods.keys ⊆ methodNames
  nodes : registry.nodes.keys ⊆ nodeNames
  configured : registry.config = config

variable {methodNames nodeNames : List String}

theorem Named.same {before after : MetricsRegistry}
    (named : Named config methodNames nodeNames before) (same : SameKeys before after) :
    Named config methodNames nodeNames after where
  methods := same.methods ▸ named.methods
  nodes := same.nodes ▸ named.nodes
  configured := same.config.trans named.configured

theorem maybeCleanup_named (input : CleanupInput) (registry : MetricsRegistry)
    (named : Named config methodNames nodeNames registry) :
    Named config methodNames nodeNames (registry.maybeCleanup input) := by
  unfold maybeCleanup
  split
  next =>
    exact ⟨List.Subset.trans (Cleanup.clean_keys_subset _ _ _ _ _ _) named.methods,
      List.Subset.trans (Cleanup.clean_keys_subset _ _ _ _ _ _) named.nodes, named.configured⟩
  next => exact ⟨named.methods, named.nodes, named.configured⟩

theorem methodEntry_named (method : String) (time : Option UInt64) (registry : MetricsRegistry)
    (named : Named config methodNames nodeNames registry) (known : method ∈ methodNames) :
    Named config methodNames nodeNames (registry.methodEntry method time) := by
  unfold methodEntry
  split
  next => exact named
  next absent =>
    refine ⟨?_, named.nodes, named.configured⟩
    rw [AList.keys_insert_absent _ _ _ absent]
    exact List.cons_subset.mpr ⟨known, named.methods⟩

theorem nodeEntry_named (nodeAddr : String) (registry : MetricsRegistry)
    (named : Named config methodNames nodeNames registry) (known : nodeAddr ∈ nodeNames) :
    Named config methodNames nodeNames (registry.nodeEntry nodeAddr) := by
  unfold nodeEntry
  split
  next => exact named
  next absent =>
    refine ⟨named.methods, ?_, named.configured⟩
    rw [AList.keys_insert_absent _ _ _ absent]
    exact List.cons_subset.mpr ⟨known, named.nodes⟩

theorem stages_named (operation : MetricsOperation)
    (known : operation.Uses methodNames nodeNames) (registry : MetricsRegistry)
    (named : Named config methodNames nodeNames registry) :
    machine.Throughout (Named config methodNames nodeNames) registry operation.stages := by
  cases operation with
  | recordMethodCall method latencyUs success cleanup times =>
      have total : Named config methodNames nodeNames registry.incrementTotal :=
        named.same ⟨rfl, rfl, rfl, rfl⟩
      have outcome := total.same (incrementOutcome_sameKeys success _)
      have cleaned := maybeCleanup_named cleanup _ outcome
      have entered := methodEntry_named method times.created _ cleaned known
      have called := entered.same
        (onMethod_sameKeys method MethodStats.incrementCall times.called _)
      have recorded := called.same
        (onMethod_sameKeys method (MethodStats.recordLatency latencyUs) times.recorded _)
      exact ⟨named, total, outcome, cleaned, entered, called, recorded,
        recorded.same (onMethod_sameKeys method _ times.settled _)⟩
  | recordNodeRequest nodeAddr cleanup time =>
      have cleaned := maybeCleanup_named cleanup _ named
      have entered := nodeEntry_named nodeAddr _ cleaned known
      exact ⟨named, cleaned, entered,
        entered.same (onNode_sameKeys nodeAddr NodeStats.recordRequest time _)⟩

theorem operations_named (operations : List MetricsOperation)
    (known : ∀ operation ∈ operations, operation.Uses methodNames nodeNames)
    (registry : MetricsRegistry) (named : Named config methodNames nodeNames registry) :
    machine.Throughout (Named config methodNames nodeNames) registry
      (operations.flatMap MetricsOperation.stages) :=
  machine.throughout_flatMap _ _ operations
    (fun operation member => stages_named operation (known operation member)) registry named

def WithinLimits (registry : MetricsRegistry) : Prop :=
  registry.methods.keys.length ≤ registry.config.maxMethods ∧
    registry.nodes.keys.length ≤ registry.config.maxNodes

instance (registry : MetricsRegistry) : Decidable registry.WithinLimits :=
  inferInstanceAs (Decidable (_ ∧ _))

theorem few_names_within_limits (config : MetricsConfig) (clock : TimestampClock)
    (operations : List MetricsOperation)
    (known : ∀ operation ∈ operations, operation.Uses methodNames nodeNames)
    (fewMethods : methodNames.length ≤ config.maxMethods)
    (fewNodes : nodeNames.length ≤ config.maxNodes) :
    machine.Throughout WithinLimits (withConfig config clock)
      (operations.flatMap MetricsOperation.stages) := by
  have start : Named config methodNames nodeNames (withConfig config clock) :=
    ⟨List.nil_subset _, List.nil_subset _, rfl⟩
  refine (operations_named operations known _ start).mono ?_
  rintro registry ⟨methods, nodes, rfl⟩
  have methodCount := (List.subperm_of_subset registry.methods.keys_nodup methods).length_le
  have nodeCount := (List.subperm_of_subset registry.nodes.keys_nodup nodes).length_le
  exact ⟨methodCount.trans fewMethods, nodeCount.trans fewNodes⟩

end MetricsRegistry

end MadRpc
