import MadRpc.Metrics.TimeToLive
import MadRpc.Metrics.Totals

set_option autoImplicit false

namespace MadRpc

/-- What a cleanup leaves of a table: as many of the fresh entries as the limit allows, and none
of them used less recently than one that goes. -/
structure KeepsMostRecent {Entry : Type} (lastAccess : Entry → UInt64) (isFresh : Entry → Bool)
    (max : Nat) (before after : AList fun _ : String => Entry) : Prop where
  number : after.keys.length = min max (before.entries.countP fun entry => isFresh entry.2)
  unchanged : ∀ name entry, after.lookup name = some entry → before.lookup name = some entry
  fresh : ∀ name entry, after.lookup name = some entry → isFresh entry = true
  recent : ∀ dropped old kept recent, before.lookup dropped = some old → isFresh old = true →
    after.lookup dropped = none → after.lookup kept = some recent →
      lastAccess old ≤ lastAccess recent

namespace Cleanup

variable {Entry : Type} (lastAccess : Entry → UInt64)

theorem oldestFirst_sorted (order : List String) (table : AList fun _ : String => Entry) :
    (oldestFirst lastAccess order table).Pairwise fun first second =>
      lastAccess first.2 ≤ lastAccess second.2 := by
  have total : Std.Total fun first second : Sigma fun _ : String => Entry =>
      lastAccess first.2 ≤ lastAccess second.2 := ⟨fun _ _ => UInt64.le_total _ _⟩
  have trans : IsTrans (Sigma fun _ : String => Entry) fun first second =>
      lastAccess first.2 ≤ lastAccess second.2 := ⟨fun _ _ _ => UInt64.le_trans⟩
  exact List.pairwise_insertionSort _ _

theorem mem_oldestFirst (order : List String) (table : AList fun _ : String => Entry)
    (entry : Sigma fun _ : String => Entry) :
    entry ∈ oldestFirst lastAccess order table ↔ entry ∈ table.entries :=
  (List.mem_insertionSort _).trans (List.mem_insertionSort _)

theorem enforceLimit_recent (max : Nat) (order : List String)
    (table : AList fun _ : String => Entry) {dropped kept : String} {old recent : Entry}
    (present : table.lookup dropped = some old)
    (gone : (enforceLimit lastAccess max order table).lookup dropped = none)
    (found : (enforceLimit lastAccess max order table).lookup kept = some recent) :
    lastAccess old ≤ lastAccess recent := by
  have known := lookup_of_enforceLimit lastAccess max order table kept recent found
  have sorted := oldestFirst_sorted lastAccess order table
  have somewhere := (mem_oldestFirst lastAccess order table ⟨kept, recent⟩).mpr
    (AList.mem_lookup_iff.mp known)
  rw [← List.take_append_drop (table.keys.length - max) (oldestFirst lastAccess order table)]
    at sorted somewhere
  rw [enforceLimit_lookup] at gone found
  split at gone
  next listed =>
    split at found
    next => cases found
    next unlisted =>
      -- The one is among the oldest, the other behind them.
      obtain ⟨⟨name, entry⟩, taken, same⟩ := List.mem_map.mp listed
      obtain rfl : name = dropped := same
      have original := (mem_oldestFirst lastAccess order table _).mp (List.mem_of_mem_take taken)
      obtain rfl : entry = old :=
        Option.some.inj ((AList.lookup_of_mem original).symm.trans present)
      have behind := (List.mem_append.mp somewhere).resolve_left fun early =>
        unlisted (List.mem_map_of_mem early)
      exact (List.pairwise_append.mp sorted).2.2 _ taken _ behind
  next =>
    rw [present] at gone
    cases gone

theorem retainFresh_length (now ttlMs : UInt64) (table : AList fun _ : String => Entry) :
    (retainFresh lastAccess now ttlMs table).keys.length = table.entries.countP fun entry =>
      decide (saturatingSub now (lastAccess entry.2) < ttlMs) :=
  (List.length_map _).trans List.countP_eq_length_filter.symm

theorem clean_keepsMostRecent (now ttlMs : UInt64) (max : Nat) (order : List String)
    (table : AList fun _ : String => Entry) :
    KeepsMostRecent lastAccess
      (fun entry => decide (saturatingSub now (lastAccess entry) < ttlMs)) max table
      (clean lastAccess now ttlMs max order table) where
  number := by rw [clean, enforceLimit_length, retainFresh_length]
  unchanged := lookup_of_clean lastAccess now ttlMs max order table
  fresh name entry found := by
    have kept := lookup_of_enforceLimit lastAccess max order _ name entry found
    rw [retainFresh, AList.lookup_retain, Option.filter_eq_some_iff] at kept
    exact kept.2
  recent dropped old kept recent present fresh gone found := by
    have retained : (retainFresh lastAccess now ttlMs table).lookup dropped = some old := by
      rw [retainFresh, AList.lookup_retain, present, Option.filter_some, if_pos fresh]
    exact enforceLimit_recent lastAccess max order _ retained gone found

end Cleanup

/-- The age of an entry by the clock of the registry; it is zero if the clock is behind. -/
def younger (now ttlSecs lastAccess : UInt64) : Bool :=
  decide (now.toNat - lastAccess.toNat < ttlSecs.toNat * 1000)

theorem younger_eq {ttlSecs : UInt64} (representable : ttlSecs.toNat * 1000 < UInt64.size)
    (now lastAccess : UInt64) :
    decide (saturatingSub now lastAccess < ttlSecs * 1000) = younger now ttlSecs lastAccess := by
  have ttlMs : (ttlSecs * 1000).toNat = ttlSecs.toNat * 1000 := by
    rw [UInt64.toNat_mul]
    exact Nat.mod_eq_of_lt representable
  simp only [younger, UInt64.lt_iff_toNat_lt, saturatingSub_toNat, ttlMs]

namespace MetricsRegistry

theorem cleanup_keeps_most_recent (registry : MetricsRegistry) (input : CleanupInput)
    (methodTtl : registry.config.methodTtlSecs.toNat * 1000 < UInt64.size)
    (nodeTtl : registry.config.nodeTtlSecs.toNat * 1000 < UInt64.size) :
    let now := (registry.clock.getMonotonicTimestamp input.time).2
    let after := registry.cleanupStaleEntries input
    KeepsMostRecent MethodStats.lastAccessMs
        (fun stats => younger now registry.config.methodTtlSecs stats.lastAccessMs)
        registry.config.maxMethods registry.methods after.methods ∧
      KeepsMostRecent NodeStats.lastRequestMs
        (fun stats => younger now registry.config.nodeTtlSecs stats.lastRequestMs)
        registry.config.maxNodes registry.nodes after.nodes ∧
      SameTotals registry after := by
  refine ⟨?_, ?_, rfl, rfl, rfl⟩
  · simp only [← younger_eq methodTtl]
    exact Cleanup.clean_keepsMostRecent _ _ _ _ input.methodOrder registry.methods
  · simp only [← younger_eq nodeTtl]
    exact Cleanup.clean_keepsMostRecent _ _ _ _ input.nodeOrder registry.nodes

-- Three fresh methods, two of them last used at one time, and one that is stale.
def crowded : MetricsRegistry :=
  let used (lastAccess : UInt64) : MethodStats :=
    { MethodStats.new 0 with lastAccessMs := lastAccess }
  { withConfig ⟨2, 1, 1, 1⟩ .initial with
    methods := (((∅ : AList fun _ : String => MethodStats).insert "first" (used 5000)).insert
      "second" (used 5000)).insert "third" (used 5001) |>.insert "stale" (used 4000)
    nodes := (∅ : AList fun _ : String => NodeStats).insert "http://node1:8080" ⟨3, 5002⟩ }

theorem cleanup_keeps_most_recent_witness :
    let input : CleanupInput := ⟨some 5500, ["second"], []⟩
    let now := (crowded.clock.getMonotonicTimestamp input.time).2
    let after := crowded.cleanupStaleEntries input
    KeepsMostRecent MethodStats.lastAccessMs
        (fun stats => younger now crowded.config.methodTtlSecs stats.lastAccessMs)
        crowded.config.maxMethods crowded.methods after.methods ∧
      KeepsMostRecent NodeStats.lastRequestMs
        (fun stats => younger now crowded.config.nodeTtlSecs stats.lastRequestMs)
        crowded.config.maxNodes crowded.nodes after.nodes ∧
      SameTotals crowded after :=
  cleanup_keeps_most_recent crowded ⟨some 5500, ["second"], []⟩ (by decide) (by decide)

end MetricsRegistry

end MadRpc
