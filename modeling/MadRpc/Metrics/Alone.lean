import Mathlib.Logic.Relation
import MadRpc.Metrics.Conservation

set_option autoImplicit false

/-!
# A call that runs alone

One call after another is one of the ways calls can run side by side, and leaves the registry
that the sequential operations leave.
-/

namespace MadRpc.SharedRegistry

/-- The registry as calls one after another see it. -/
def view (registry : SharedRegistry) : MetricsRegistry where
  totalRequests := registry.totalRequests
  successfulRequests := registry.successfulRequests
  failedRequests := registry.failedRequests
  methods := registry.methods.through registry.stats
  nodes := registry.nodes
  config := registry.config
  cleanupCounter := registry.cleanupCounter
  clock := registry.clock

structure AtRest (registry : SharedRegistry) : Prop where
  unlocked : registry.methodsLock = none
  allocated : ∀ method entry, registry.methods.lookup method = some entry →
    entry < registry.allocated
  distinct : ∀ method other entry, registry.methods.lookup method = some entry →
    registry.methods.lookup other = some entry → other = method

theorem AtRest.fewer {before after : SharedRegistry} (rest : AtRest before)
    (methods : ∀ method entry, after.methods.lookup method = some entry →
      before.methods.lookup method = some entry)
    (allocated : after.allocated = before.allocated) (unlocked : after.methodsLock = none) :
    AtRest after where
  unlocked := unlocked
  allocated method entry found :=
    allocated ▸ rest.allocated method entry (methods method entry found)
  distinct method other entry found shared :=
    rest.distinct method other entry (methods method entry found) (methods other entry shared)

theorem AtRest.same {before after : SharedRegistry} (rest : AtRest before)
    (same : SameEntries before after) (unlocked : after.methodsLock = none) : AtRest after :=
  rest.fewer (fun _ _ found => same.methods ▸ found) same.allocated unlocked

theorem AtRest.inserted {before after : SharedRegistry} {name : String} (rest : AtRest before)
    (methods : after.methods = before.methods.insert name before.allocated)
    (allocated : after.allocated = before.allocated + 1) (unlocked : after.methodsLock = none) :
    AtRest after where
  unlocked := unlocked
  allocated method entry found := by
    rw [methods, AList.lookup_insert_ite] at found
    rw [allocated]
    split at found
    next =>
      cases found
      exact Nat.lt_succ_self _
    next => exact Nat.lt_succ_of_lt (rest.allocated method entry found)
  distinct method other entry found shared := by
    rw [methods, AList.lookup_insert_ite] at found shared
    split at found <;> split at shared
    next first second => exact second.trans first.symm
    next =>
      cases found
      exact absurd (rest.allocated other _ shared) (Nat.lt_irrefl _)
    next =>
      cases shared
      exact absurd (rest.allocated method _ found) (Nat.lt_irrefl _)
    next => exact rest.distinct method other entry found shared

theorem withConfig_atRest (config : MetricsConfig) (clock : TimestampClock) :
    AtRest (withConfig config clock) where
  unlocked := rfl
  allocated _ _ found := by cases found
  distinct _ _ _ found := by cases found

def Moves (index : Nat) (call : MethodCall) (here there : SharedRegistry × Point) : Prop :=
  ∃ input, here.1.advance index call input here.2 = there

abbrev Reaches (index : Nat) (call : MethodCall) :=
  Relation.ReflTransGen (Moves index call)

variable {index : Nat} {call : MethodCall}

theorem reaches_step {registry after : SharedRegistry} {point next : Point} (input : Surroundings)
    (stepped : registry.advance index call input point = (after, next)) :
    Reaches index call (registry, point) (after, next) :=
  .single ⟨input, stepped⟩

def idle : Surroundings := ⟨none, [], []⟩

def counted (success : Bool) (registry : SharedRegistry) : SharedRegistry :=
  if success then
    { registry with
      totalRequests := registry.totalRequests + 1
      successfulRequests := registry.successfulRequests + 1 }
  else
    { registry with
      totalRequests := registry.totalRequests + 1
      failedRequests := registry.failedRequests + 1 }

theorem opening_reaches (registry : SharedRegistry) :
    Reaches index call (registry, .incrementTotal)
      (registry.counted call.success, .countCleanup) := by
  have total : Reaches index call (registry, .incrementTotal)
      ({ registry with totalRequests := registry.totalRequests + 1 }, .incrementOutcome) :=
    reaches_step idle rfl
  refine total.trans (reaches_step idle ?_)
  unfold counted advance
  cases call.success <;> rfl

theorem counted_view (success : Bool) (registry : SharedRegistry) :
    (registry.counted success).view =
      (registry.view.incrementTotal).incrementOutcome success := by
  cases success <;> rfl

theorem counted_same (success : Bool) (registry : SharedRegistry) :
    SameEntries registry (registry.counted success) ∧
      (registry.counted success).methodsLock = registry.methodsLock := by
  cases success <;> exact ⟨⟨rfl, rfl, rfl⟩, rfl⟩

def fresh (now : UInt64) (registry : SharedRegistry) (entry : Nat) : Bool :=
  decide (saturatingSub now (registry.stats entry).lastAccessMs <
    registry.config.methodTtlSecs * 1000)

theorem retain_eq (now : UInt64) (name : String) (registry : SharedRegistry) :
    registry.retain now name =
      { registry with
        methods := registry.methods.retain fun other entry =>
          decide (other ≠ name) || registry.fresh now entry } := by
  have named (entry : Sigma fun _ : String => Nat) (member : entry ∈ registry.methods.entries)
      (here : entry.1 = name) : registry.methods.lookup name = some entry.2 :=
    here ▸ AList.lookup_of_mem member
  unfold retain tracked
  cases found : registry.methods.lookup name with
  | none =>
      have all : registry.methods.retain (fun other entry =>
          decide (other ≠ name) || registry.fresh now entry) = registry.methods := by
        refine AList.retain_eq_self fun entry member => ?_
        have other : entry.1 ≠ name := fun here => by
          rw [named entry member here] at found
          cases found
        simp [other]
      rw [all]
      rfl
  | some own =>
      dsimp only [Option.map_some]
      split
      next kept =>
        have all : registry.methods.retain (fun other entry =>
            decide (other ≠ name) || registry.fresh now entry) = registry.methods := by
          refine AList.retain_eq_self fun entry member => ?_
          by_cases here : entry.1 = name
          · have same : entry.2 = own :=
              Option.some.inj ((named entry member here).symm.trans found)
            simp [fresh, same, kept]
          · simp [here]
        rw [all]
      next stale =>
        rw [AList.erase_eq_retain]
        congr 1
        refine AList.retain_congr fun entry member => ?_
        by_cases here : entry.1 = name
        · have same : entry.2 = own :=
            Option.some.inj ((named entry member here).symm.trans found)
          simp [fresh, same, stale]
        · simp [here]

theorem retaining_reaches (now : UInt64) (names : List String) (registry : SharedRegistry) :
    Reaches index call (registry, .retaining now names)
      ({ registry with
        methods := registry.methods.retain fun other entry =>
          decide (other ∉ names) || registry.fresh now entry }, .limiting now) := by
  induction names generalizing registry with
  | nil =>
      have all : registry.methods.retain (fun other entry =>
          decide (other ∉ []) || registry.fresh now entry) = registry.methods :=
        AList.retain_eq_self fun entry _ => by simp
      rw [all]
      exact reaches_step idle rfl
  | cons name rest ih =>
      have one : Reaches index call (registry, .retaining now (name :: rest))
          (registry.retain now name, .retaining now rest) := reaches_step idle rfl
      refine one.trans ?_
      have others := ih (registry.retain now name)
      have both : (fun other entry =>
          (decide (other ≠ name) || registry.fresh now entry) &&
            (decide (other ∉ rest) || registry.fresh now entry)) =
          fun other entry => decide (other ∉ name :: rest) || registry.fresh now entry := by
        funext other entry
        by_cases here : other = name <;> cases registry.fresh now entry <;> simp [here]
      rw [retain_eq] at others ⊢
      rw [← both, ← AList.retain_retain]
      exact others

def ranked (registry : SharedRegistry) (names : List String) : List (String × UInt64) :=
  names.flatMap fun name =>
    ((registry.tracked name).map fun stats => (name, stats.lastAccessMs)).toList

theorem ranking_reaches (now : UInt64) (registry : SharedRegistry) (names : List String)
    (entries : List (String × UInt64)) :
    Reaches index call (registry, .ranking now names entries)
      (registry, .removing now (leastRecentlyUsed (entries ++ registry.ranked names)
        ((entries ++ registry.ranked names).length - registry.config.maxMethods))) := by
  induction names generalizing entries with
  | nil =>
      rw [ranked, List.flatMap_nil, List.append_nil]
      exact reaches_step idle rfl
  | cons name rest ih =>
      have one : Reaches index call (registry, .ranking now (name :: rest) entries)
          (registry, .ranking now rest (entries ++ registry.ranked [name])) :=
        reaches_step idle (by rw [ranked, List.flatMap_singleton]; rfl)
      refine one.trans ?_
      have others := ih (entries ++ registry.ranked [name])
      rw [List.append_assoc, ranked, ranked, ← List.flatMap_append] at others
      exact others

theorem removing_reaches (now : UInt64) (names : List String) (registry : SharedRegistry) :
    Reaches index call (registry, .removing now names)
      ({ registry with
        methods := names.foldl (fun table name => table.erase name) registry.methods },
        .unlockCleanup now) := by
  induction names generalizing registry with
  | nil => exact reaches_step idle rfl
  | cons name rest ih =>
      have one : Reaches index call (registry, .removing now (name :: rest))
          ({ registry with methods := registry.methods.erase name }, .removing now rest) :=
        reaches_step idle rfl
      exact one.trans (ih _)

theorem iterated_eq (order : List String) (registry : SharedRegistry) :
    registry.iterated order =
      (Cleanup.iterated order registry.view.methods).map Sigma.fst := by
  unfold iterated Cleanup.iterated
  rw [List.map_insertionSort _ (fun first second => order.idxOf first ≤ order.idxOf second)
    Sigma.fst _ fun _ _ _ _ => Iff.rfl]
  exact congrArg _ (AList.keys_through registry.stats registry.methods).symm

theorem ranked_iterated (order : List String) (registry : SharedRegistry) :
    registry.ranked (registry.iterated order) =
      (Cleanup.iterated order registry.view.methods).map fun entry =>
        (entry.1, entry.2.lastAccessMs) := by
  rw [iterated_eq, ranked, List.flatMap_map, List.map_eq_flatMap]
  refine List.flatMap_congr fun entry member => ?_
  have inside : entry ∈ registry.view.methods.entries := (List.mem_insertionSort _).mp member
  have found : registry.tracked entry.1 = some entry.2 :=
    (AList.lookup_through registry.stats registry.methods entry.1).symm.trans
      (AList.lookup_of_mem inside)
  rw [found]
  rfl

theorem leastRecentlyUsed_eq (order : List String) (registry : SharedRegistry) (count : Nat) :
    leastRecentlyUsed (registry.ranked (registry.iterated order)) count =
      ((Cleanup.oldestFirst MethodStats.lastAccessMs order registry.view.methods).take count).map
        Sigma.fst := by
  rw [leastRecentlyUsed, ranked_iterated, Cleanup.oldestFirst,
    ← List.map_insertionSort (fun first second => first.2.lastAccessMs ≤ second.2.lastAccessMs) _
      _ _ fun _ _ _ _ => Iff.rfl, ← List.map_take, List.map_map]
  rfl

theorem ranked_length (order : List String) (registry : SharedRegistry) :
    (registry.ranked (registry.iterated order)).length = registry.methods.keys.length := by
  rw [ranked_iterated, List.length_map, Cleanup.iterated, List.length_insertionSort,
    ← AList.keys_through registry.stats registry.methods]
  exact (List.length_map _).symm

theorem limiting_reaches (now : UInt64) (order : List String) (registry : SharedRegistry) :
    ∃ methods, Reaches index call (registry, .limiting now)
        ({ registry with methods := methods }, .unlockCleanup now) ∧
      methods.through registry.stats = Cleanup.enforceLimit MethodStats.lastAccessMs
        registry.config.maxMethods order (registry.methods.through registry.stats) ∧
      ∀ method entry, methods.lookup method = some entry →
        registry.methods.lookup method = some entry := by
  by_cases exceeds : registry.config.maxMethods < registry.methods.keys.length
  · have limited : Reaches index call (registry, .limiting now)
        (registry, .ranking now (registry.iterated order) []) :=
      reaches_step ⟨none, order, []⟩ (by simp only [advance, exceeds, if_true])
    have rankings : Reaches index call _ _ :=
      ranking_reaches now registry (registry.iterated order) []
    rw [List.nil_append, ranked_length, leastRecentlyUsed_eq] at rankings
    refine ⟨_, limited.trans (rankings.trans (removing_reaches now _ registry)), ?_,
      fun method entry found => AList.lookup_of_lookup_foldl_erase _ found⟩
    rw [AList.foldl_erase_through, List.foldl_map, Cleanup.enforceLimit, AList.keys_through,
      if_pos exceeds]
    rfl
  · have fits : Reaches index call (registry, .limiting now) (registry, .unlockCleanup now) :=
      reaches_step idle (by simp only [advance, exceeds, if_false])
    refine ⟨registry.methods, fits, ?_, fun _ _ found => found⟩
    rw [Cleanup.enforceLimit, AList.keys_through, if_neg exceeds]

theorem retained_all (now : UInt64) (order : List String) (registry : SharedRegistry) :
    registry.methods.retain (fun other entry =>
        decide (other ∉ registry.iterated order) || registry.fresh now entry) =
      registry.methods.retain fun _ entry => registry.fresh now entry := by
  refine AList.retain_congr fun entry member => ?_
  have listed : entry.1 ∈ registry.iterated order :=
    (List.mem_insertionSort _).mpr (List.mem_keys_of_mem member)
  simp [listed]

theorem locked_cleanup_reaches (now : UInt64) (methodOrder nodeOrder : List String)
    (registry : SharedRegistry) (rest : AtRest registry) :
    ∃ methods, Reaches index call (registry, .lockCleanup now)
        ({ registry with
          methods := methods
          nodes := Cleanup.clean NodeStats.lastRequestMs now (registry.config.nodeTtlSecs * 1000)
            registry.config.maxNodes nodeOrder registry.nodes }, .lockEntry) ∧
      methods.through registry.stats =
        Cleanup.clean MethodStats.lastAccessMs now (registry.config.methodTtlSecs * 1000)
          registry.config.maxMethods methodOrder (registry.methods.through registry.stats) ∧
      ∀ method entry, methods.lookup method = some entry →
        registry.methods.lookup method = some entry := by
  have locked : Reaches index call (registry, .lockCleanup now)
      ({ registry with methodsLock := some index },
        .retaining now (registry.iterated methodOrder)) :=
    reaches_step ⟨none, methodOrder, []⟩ (by simp only [advance, rest.unlocked, if_true])
  have retained : Reaches index call
      ({ registry with methodsLock := some index },
        .retaining now (registry.iterated methodOrder))
      ({ registry with
        methodsLock := some index
        methods := registry.methods.retain fun _ entry => registry.fresh now entry },
        .limiting now) := by
    rw [← retained_all now methodOrder registry]
    exact retaining_reaches now _ { registry with methodsLock := some index }
  obtain ⟨methods, limited, within, fewer⟩ := limiting_reaches now methodOrder
    { registry with
      methodsLock := some index
      methods := registry.methods.retain fun _ entry => registry.fresh now entry }
  have unlocked : Reaches index call
      ({ registry with methodsLock := some index, methods := methods }, .unlockCleanup now)
      ({ registry with methods := methods }, .cleaningNodes now) :=
    reaches_step idle (by rw [advance, ← rest.unlocked])
  have cleaned : Reaches index call ({ registry with methods := methods }, .cleaningNodes now) _ :=
    reaches_step ⟨none, [], nodeOrder⟩ rfl
  refine ⟨methods, locked.trans (retained.trans (limited.trans (unlocked.trans cleaned))), ?_, ?_⟩
  · rw [within, Cleanup.clean, Cleanup.retainFresh, AList.retain_through]
    rfl
  · intro method entry found
    have kept := fewer method entry found
    rw [AList.lookup_retain, Option.filter_eq_some_iff] at kept
    exact kept.1

theorem cleanup_reaches (input : CleanupInput) (registry : SharedRegistry)
    (rest : AtRest registry) :
    ∃ after, Reaches index call (registry, .countCleanup) (after, .lockEntry) ∧
      after.view = registry.view.maybeCleanup input ∧ AtRest after := by
  by_cases due : registry.view.cleanupDue = true
  · have zero : registry.cleanupCounter % MetricsRegistry.CLEANUP_INTERVAL = 0 :=
      of_decide_eq_true due
    let timed : SharedRegistry :=
      { registry with
        cleanupCounter := registry.cleanupCounter + 1
        clock := (registry.clock.getMonotonicTimestamp input.time).1 }
    have counted : Reaches index call (registry, .countCleanup)
        ({ registry with cleanupCounter := registry.cleanupCounter + 1 }, .cleanupTime) :=
      reaches_step idle (by rw [advance, if_pos zero])
    have read : Reaches index call
        ({ registry with cleanupCounter := registry.cleanupCounter + 1 }, .cleanupTime)
        ({ registry with
          cleanupCounter := registry.cleanupCounter + 1
          clock := (registry.clock.readSystemTime input.time).1 },
          .cleanupExchange (registry.clock.readSystemTime input.time).2) :=
      reaches_step ⟨input.time, [], []⟩ rfl
    have stamped : Reaches index call _
        (timed, .lockCleanup (registry.clock.getMonotonicTimestamp input.time).2) :=
      read.trans (reaches_step idle (by
        simp only [timed, TimestampClock.getMonotonicTimestamp_eq]
        rfl))
    obtain ⟨methods, cleaned, within, fewer⟩ := locked_cleanup_reaches
      (registry.clock.getMonotonicTimestamp input.time).2 input.methodOrder input.nodeOrder timed
      (rest.same ⟨rfl, rfl, rfl⟩ rest.unlocked)
    refine ⟨_, counted.trans (stamped.trans cleaned), ?_, rest.fewer fewer rfl rest.unlocked⟩
    rw [MetricsRegistry.maybeCleanup, if_pos due, view]
    dsimp only
    rw [within]
    rfl
  · have nonzero : ¬registry.cleanupCounter % MetricsRegistry.CLEANUP_INTERVAL = 0 :=
      fun zero => due (decide_eq_true zero)
    have counted : Reaches index call (registry, .countCleanup)
        ({ registry with cleanupCounter := registry.cleanupCounter + 1 }, .lockEntry) :=
      reaches_step idle (by rw [advance, if_neg nonzero])
    refine ⟨_, counted, ?_, rest.same ⟨rfl, rfl, rfl⟩ rest.unlocked⟩
    rw [MetricsRegistry.maybeCleanup, if_neg due]
    rfl

end MadRpc.SharedRegistry
