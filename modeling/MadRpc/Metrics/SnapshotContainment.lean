import MadRpc.Metrics.SnapshotConcurrency

set_option autoImplicit false

namespace MadRpc

/-! ## What is loaded -/

inductive Count where
  | calls
  | successes
  | failures
  deriving DecidableEq, Repr

namespace Count

def counter : Count → Counter
  | calls => .callCount
  | successes => .successCount
  | failures => .failureCount

def get (metrics : MethodMetrics) : Count → UInt64
  | calls => metrics.callCount
  | successes => metrics.successCount
  | failures => metrics.failureCount

def stage : Count → Nat
  | calls => 0
  | successes => 1
  | failures => 2

end Count

inductive Total where
  | requests
  | successes
  | failures
  deriving DecidableEq, Repr

namespace Total

def get (registry : SharedRegistry) : Total → UInt64
  | requests => registry.totalRequests
  | successes => registry.successfulRequests
  | failures => registry.failedRequests

def loaded (snapshot : Snapshotting) : Total → UInt64
  | requests => snapshot.totalRequests
  | successes => snapshot.successfulRequests
  | failures => snapshot.failedRequests

def weight : Total → ActiveCall → Nat
  | requests => ActiveCall.total
  | successes => ActiveCall.successful
  | failures => ActiveCall.failed

def stage : Total → Nat
  | requests => 0
  | successes => 1
  | failures => 2

end Total

def Load.stage : Load → Nat
  | callCount => 0
  | successCount => 1
  | failureCount => 2
  | _ => 3

def SnapshotPoint.stage : SnapshotPoint → Nat
  | totalRequests => 0
  | successfulRequests => 1
  | failedRequests => 2
  | _ => 3

theorem Count.get_store (estimate : UInt64) (metrics : MethodMetrics) (percentile : Percentile)
    (count : Count) : count.get (percentile.store estimate metrics) = count.get metrics := by
  cases percentile <;> cases count <;> rfl

namespace SnapshotPoint

def left : SnapshotPoint → List (String × Nat)
  | entry left => left
  | loading name known _ left => (name, known) :: left
  | _ => []

def reading : SnapshotPoint → Option (Nat × MethodReading)
  | loading _ known reading _ => some (known, reading)
  | _ => none

end SnapshotPoint

namespace Counter

theorem added_le (counter : Counter) (entry : Nat) (active : ActiveCall) :
    counter.added entry active ≤ counter.owed active.call Update.recording := by
  cases program : active.point.program with
  | none =>
      rw [added_of_idle program]
      exact Nat.zero_le _
  | some running =>
      rw [added_of_program program]
      split
      next => exact Nat.sub_le _ _
      next => exact Nat.zero_le _

end Counter

namespace ConcurrentMetrics

theorem Totals.get_eq {state : ConcurrentMetrics} (totals : Totals state) (total : Total) :
    total.get state.registry = UInt64.ofNat (tally total.weight state.calls) := by
  cases total
  · exact totals.total
  · exact totals.successful
  · exact totals.failed

theorem total_weight_le (total : Total) (active : ActiveCall) : total.weight active ≤ 1 := by
  have settled : active.point.settled ≤ 1 := by
    cases active.point <;> first | exact Nat.le_refl 1 | exact Nat.zero_le 1
  cases total with
  | requests =>
      show active.point.totalled ≤ 1
      cases active.point <;> first | exact Nat.le_refl 1 | exact Nat.zero_le 1
  | successes =>
      show (if active.call.success then active.point.settled else 0) ≤ 1
      split
      next => exact settled
      next => exact Nat.zero_le 1
  | failures =>
      show (if active.call.success then 0 else active.point.settled) ≤ 1
      split
      next => exact Nat.zero_le 1
      next => exact settled

theorem Later.totals {before after : ConcurrentMetrics} (later : Later before after)
    (total : Total) : tally total.weight before.calls ≤ tally total.weight after.calls := by
  cases total
  · exact later.total
  · exact later.successful
  · exact later.failed

section Sound

variable {state : ConcurrentMetrics} (sound : Sound state) (few : state.calls.length < 2 ^ 64)
include sound few

theorem total_toNat (total : Total) :
    (total.get state.registry).toNat = tally total.weight state.calls := by
  rw [sound.totals.get_eq, toNat_tally few fun active _ => total_weight_le total active]

theorem counter_toNat {counter : Counter}
    (once : ∀ call, counter.owed call Update.recording ≤ 1) {entry : Nat}
    (inside : entry < state.registry.allocated) :
    (counter.get (state.registry.stats entry)).toNat = state.counted counter entry := by
  rw [sound.balanced counter entry inside, toNat_tally few]
  · rfl
  · intro active _
    exact Nat.le_trans (counter.added_le entry active) (once active.call)

theorem count_toNat (count : Count) {entry : Nat} (inside : entry < state.registry.allocated) :
    (count.counter.get (state.registry.stats entry)).toNat =
      state.counted count.counter entry := by
  refine counter_toNat sound few (fun call => ?_) inside
  cases count with
  | calls => exact Nat.le_of_eq (Counter.owed_callCount call)
  | successes =>
      refine Nat.le_trans (Nat.le_of_eq (Counter.owed_successCount call)) ?_
      split <;> decide
  | failures =>
      refine Nat.le_trans (Nat.le_of_eq (Counter.owed_failureCount call)) ?_
      split <;> decide

end Sound

/-! ## The map under the read lock -/

end ConcurrentMetrics

theorem SharedRegistry.advance_unlocked (index : Nat) (call : MethodCall) (input : Surroundings)
    (registry : SharedRegistry) (point : Point) (outside : point.holdsLock = false)
    (spared : point.wantsLock = false) :
    (registry.advance index call input point).1.methods = registry.methods ∧
      (registry.advance index call input point).1.methodsLock = registry.methodsLock := by
  cases point with
  | incrementTotal | countCleanup | cleanupTime | cleanupExchange _ | cleaningNodes _ =>
      exact ⟨rfl, rfl⟩
  | incrementOutcome =>
      simp only [advance]
      split <;> exact ⟨rfl, rfl⟩
  | lockCleanup _ | lockEntry => cases spared
  | recording entry systemTime now rest =>
      cases rest with
      | nil => exact ⟨rfl, rfl⟩
      | cons next rest => exact update_same call input registry entry systemTime now next
  | _ => cases outside

namespace ConcurrentMetrics

theorem step_unlocked (state : ConcurrentMetrics) (input : ConcurrentInput)
    (locked : state.Locked) (unlocked : state.registry.methodsLock = none)
    (spared : state.waits input = false) :
    (state.step input).registry.methods = state.registry.methods ∧
      (state.step input).registry.methodsLock = state.registry.methodsLock := by
  have stepped := step_cases state input
  generalize state.step input = next at stepped
  cases stepped with
  | began call => exact ⟨rfl, rfl⟩
  | unknown => exact ⟨rfl, rfl⟩
  | advanced index input active here =>
      have outside : active.point.holdsLock = false := by
        by_contra holds
        have held := (locked index active here).held (Bool.eq_true_of_not_eq_false holds)
        rw [unlocked] at held
        cases held
      have spared : active.point.wantsLock = false := by
        rw [waits, here] at spared
        exact spared
      exact SharedRegistry.advance_unlocked index active.call input _ _ outside spared

end ConcurrentMetrics

namespace Snapshotting

theorem entries_names (order : List String) (registry : SharedRegistry) :
    (entries order registry).map Prod.fst = registry.iterated order := by
  have kept (names : List String) (known : ∀ name ∈ names, name ∈ registry.methods) :
      (names.filterMap fun name => (registry.methods.lookup name).map fun entry =>
        (name, entry)).map Prod.fst = names := by
    induction names with
    | nil => rfl
    | cons name rest ih =>
        obtain ⟨here, others⟩ := List.forall_mem_cons.mp known
        obtain ⟨entry, tracked⟩ := Option.isSome_iff_exists.mp (AList.lookup_isSome.mpr here)
        rw [List.filterMap_cons_some (by rw [tracked]; rfl), List.map_cons, ih others]
  refine kept _ fun name member => ?_
  exact AList.mem_keys.mpr ((List.perm_insertionSort _ _).mem_iff.mp member)

theorem entries_tracked {order : List String} {registry : SharedRegistry} {name : String}
    {entry : Nat} (member : (name, entry) ∈ entries order registry) :
    registry.methods.lookup name = some entry := by
  obtain ⟨other, -, found⟩ := List.mem_filterMap.mp member
  obtain ⟨known, tracked, same⟩ := Option.map_eq_some_iff.mp found
  obtain ⟨rfl, rfl⟩ := Prod.mk.inj same
  exact tracked

end Snapshotting

/-! ## A snapshot on the way -/

structure ReadingInvariant (first : ConcurrentMetrics)
    (holds : ConcurrentMetrics → Nat → MethodReading → Prop) : Prop where
  start : ∀ now entry, holds now entry .start
  load : ∀ now entry reading, now.Sound → now.calls.length < 2 ^ 64 → first.Later now →
    entry < now.registry.allocated → holds now entry reading →
    holds now entry (reading.load (now.registry.stats entry))
  later : ∀ before after entry reading, before.Later after → holds before entry reading →
    holds after entry reading

/-- While it holds the read lock, a snapshot goes through the map as it is. -/
structure Listing (holds : ConcurrentMetrics → Nat → MethodReading → Prop)
    (now : ConcurrentMetrics) (snapshot : Snapshotting) : Prop where
  unlocked : now.registry.methodsLock = none
  names : (snapshot.methods.map Prod.fst ++ snapshot.point.left.map Prod.fst).Perm
    now.registry.methods.keys
  left : ∀ name entry, (name, entry) ∈ snapshot.point.left →
    now.registry.methods.lookup name = some entry
  reports : ∀ name metrics, (name, metrics) ∈ snapshot.methods → ∃ entry,
    now.registry.methods.lookup name = some entry ∧ holds now entry ⟨metrics, .finished⟩
  reading : ∀ entry reading, snapshot.point.reading = some (entry, reading) →
    holds now entry reading

structure Tracks (holds : ConcurrentMetrics → Nat → MethodReading → Prop)
    (first now : ConcurrentMetrics) (snapshot : Snapshotting) : Prop where
  totals : ∀ total : Total, total.stage < snapshot.point.stage →
    tally total.weight first.calls ≤ (total.loaded snapshot).toNat ∧
      (total.loaded snapshot).toNat ≤ tally total.weight now.calls
  fresh : snapshot.point.holdsLock = false → snapshot.point = .finished ∨ snapshot.methods = []
  listing : snapshot.point.holdsLock = true → Listing holds now snapshot

section Steps

variable {holds : ConcurrentMetrics → Nat → MethodReading → Prop}
  {first now next : ConcurrentMetrics} {snapshot : Snapshotting}

theorem Tracks.start (holds : ConcurrentMetrics → Nat → MethodReading → Prop)
    (first : ConcurrentMetrics) : Tracks holds first first .start where
  totals _ earlier := absurd earlier (Nat.not_lt_zero _)
  fresh _ := .inr rfl
  listing := nofun

theorem Tracks.unstarted (tracks : Tracks holds first now snapshot)
    (outside : snapshot.point.holdsLock = false) (running : snapshot.point ≠ .finished) :
    snapshot.methods = [] :=
  (tracks.fresh outside).resolve_left running

theorem Tracks.later (invariant : ReadingInvariant first holds)
    (tracks : Tracks holds first now snapshot) (later : now.Later next)
    (same : snapshot.point.holdsLock = true →
      next.registry.methods = now.registry.methods ∧ next.registry.methodsLock = none) :
    Tracks holds first next snapshot where
  totals total earlier :=
    have bounds := tracks.totals total earlier
    ⟨bounds.1, Nat.le_trans bounds.2 (later.totals total)⟩
  fresh := tracks.fresh
  listing locked := by
    obtain ⟨methods, unlocked⟩ := same locked
    have listing := tracks.listing locked
    constructor
    · exact unlocked
    · rw [methods]
      exact listing.names
    · rw [methods]
      exact listing.left
    · rw [methods]
      intro name metrics member
      obtain ⟨entry, tracked, held⟩ := listing.reports name metrics member
      exact ⟨entry, tracked, invariant.later _ _ _ _ later held⟩
    · intro entry reading here
      exact invariant.later _ _ _ _ later (listing.reading entry reading here)

theorem Listing.begin {order : List String} (unlocked : now.registry.methodsLock = none)
    (fresh : snapshot.methods = []) :
    Listing holds now
      { snapshot with point := .entry (Snapshotting.entries order now.registry) } where
  unlocked := unlocked
  names := by
    rw [fresh]
    exact (Snapshotting.entries_names order now.registry).symm ▸
      List.perm_insertionSort _ now.registry.methods.keys
  left _ _ member := Snapshotting.entries_tracked member
  reports name metrics member := by
    rw [fresh] at member
    cases member
  reading := nofun

theorem Listing.enter {name : String} {entry : Nat} {left : List (String × Nat)}
    (invariant : ReadingInvariant first holds) (listing : Listing holds now snapshot)
    (here : snapshot.point = .entry ((name, entry) :: left)) :
    Listing holds now { snapshot with point := .loading name entry .start left } where
  unlocked := listing.unlocked
  names := by
    have names := listing.names
    rw [here] at names
    exact names
  left := by
    have tracked := listing.left
    rw [here] at tracked
    exact tracked
  reports := listing.reports
  reading := by
    rintro entry reading ⟨⟩
    exact invariant.start now entry

theorem Listing.load {name : String} {entry : Nat} {reading after : MethodReading}
    {left : List (String × Nat)} (listing : Listing holds now snapshot)
    (here : snapshot.point = .loading name entry reading left) (held : holds now entry after) :
    Listing holds now { snapshot with point := .loading name entry after left } where
  unlocked := listing.unlocked
  names := by
    have names := listing.names
    rw [here] at names
    exact names
  left := by
    have tracked := listing.left
    rw [here] at tracked
    exact tracked
  reports := listing.reports
  reading := by
    rintro entry reading ⟨⟩
    exact held

theorem Listing.report {name : String} {entry : Nat} {reading : MethodReading}
    {left : List (String × Nat)} (listing : Listing holds now snapshot)
    (here : snapshot.point = .loading name entry reading left)
    (stopped : reading.next = .finished) :
    Listing holds now
      { snapshot with
        methods := snapshot.methods ++ [(name, reading.metrics)]
        point := .entry left } where
  unlocked := listing.unlocked
  names := by
    have names := listing.names
    rw [here] at names
    rw [List.map_append, List.append_assoc]
    exact names
  left other known member := by
    have tracked := listing.left
    rw [here] at tracked
    exact tracked other known (List.mem_cons_of_mem _ member)
  reports other metrics member := by
    rcases List.mem_append.mp member with earlier | last
    · exact listing.reports other metrics earlier
    · obtain ⟨rfl, rfl⟩ := Prod.mk.inj (List.mem_singleton.mp last)
      have tracked := listing.left other entry (by rw [here]; exact List.mem_cons_self)
      have held := listing.reading entry reading (by rw [here]; rfl)
      obtain ⟨metrics, next⟩ := reading
      obtain rfl : next = .finished := stopped
      exact ⟨entry, tracked, held⟩
  reading := nofun

theorem total_loaded (sound : now.Sound) (few : now.calls.length < 2 ^ 64)
    (later : first.Later now) (total : Total) :
    tally total.weight first.calls ≤ (total.get now.registry).toNat ∧
      (total.get now.registry).toNat ≤ tally total.weight now.calls := by
  rw [ConcurrentMetrics.total_toNat sound few]
  exact ⟨later.totals total, Nat.le_refl _⟩

theorem Tracks.advance (invariant : ReadingInvariant first holds)
    (tracks : Tracks holds first now snapshot) (sound : now.Sound)
    (few : now.calls.length < 2 ^ 64) (later : first.Later now) (order : List String) :
    Tracks holds first now (snapshot.advance order now.registry) := by
  obtain ⟨totalRequests, successfulRequests, failedRequests, methods, point⟩ := snapshot
  have loaded := total_loaded sound few later
  cases point with
  | totalRequests =>
      refine ⟨fun total earlier => ?_, fun _ => .inr (tracks.unstarted rfl nofun), nofun⟩
      cases total with
      | requests => exact loaded .requests
      | successes => exact absurd earlier (Nat.lt_irrefl 1)
      | failures => exact absurd earlier Nat.not_succ_lt_self
  | successfulRequests =>
      refine ⟨fun total earlier => ?_, fun _ => .inr (tracks.unstarted rfl nofun), nofun⟩
      cases total with
      | requests => exact tracks.totals .requests Nat.zero_lt_one
      | successes => exact loaded .successes
      | failures => exact absurd earlier (Nat.lt_irrefl 2)
  | failedRequests =>
      refine ⟨fun total _ => ?_, fun _ => .inr (tracks.unstarted rfl nofun), nofun⟩
      cases total with
      | requests => exact tracks.totals .requests Nat.two_pos
      | successes => exact tracks.totals .successes Nat.one_lt_two
      | failures => exact loaded .failures
  | lockMethods =>
      simp only [Snapshotting.advance]
      split
      next unlocked =>
        exact ⟨tracks.totals, nofun,
          fun _ => Listing.begin unlocked (tracks.unstarted rfl nofun)⟩
      next => exact tracks
  | entry left =>
      have listing := tracks.listing rfl
      cases left with
      | nil => exact ⟨tracks.totals, fun _ => .inl rfl, nofun⟩
      | cons pair left => exact ⟨tracks.totals, nofun, fun _ => listing.enter invariant rfl⟩
  | loading name entry reading left =>
      have listing := tracks.listing rfl
      simp only [Snapshotting.advance]
      split
      next stopped => exact ⟨tracks.totals, nofun, fun _ => listing.report rfl stopped⟩
      next =>
        obtain ⟨owner, owned⟩ := sound.owned
        have tracked := listing.left name entry List.mem_cons_self
        have held := invariant.load now entry reading sound few later
          (owned.tracked name entry tracked).1 (listing.reading entry reading rfl)
        exact ⟨tracks.totals, nofun, fun _ => listing.load rfl held⟩
  | finished => exact tracks

end Steps

namespace ConcurrentMetrics

theorem length_step (state : ConcurrentMetrics) (input : ConcurrentInput) :
    state.calls.length ≤ (state.step input).calls.length := by
  have named := congrArg List.length (step_calls state input)
  rw [List.length_append, List.length_map, List.length_map] at named
  omega

end ConcurrentMetrics

namespace ObservedMetrics

structure Observes (holds : ConcurrentMetrics → Nat → MethodReading → Prop)
    (first : ConcurrentMetrics) (index : Nat) (state : ObservedMetrics) : Prop where
  sound : state.metrics.Sound
  later : first.Later state.metrics
  tracked : state.metrics.calls.length < 2 ^ 64 → ∃ snapshot,
    state.snapshots[index]? = some snapshot ∧ Tracks holds first state.metrics snapshot

variable {holds : ConcurrentMetrics → Nat → MethodReading → Prop} {first : ConcurrentMetrics}

theorem Observes.call (invariant : ReadingInvariant first holds) {index : Nat}
    {state : ObservedMetrics} (observes : Observes holds first index state)
    (input : ConcurrentInput) (spared : (state.readLocked && state.metrics.waits input) = false) :
    Observes holds first index { state with metrics := state.metrics.step input } where
  sound := ConcurrentMetrics.step_sound _ input observes.sound
  later := observes.later.trans (ConcurrentMetrics.step_later _ input)
  tracked few := by
    obtain ⟨snapshot, there, tracks⟩ := observes.tracked
      (Nat.lt_of_le_of_lt (ConcurrentMetrics.length_step _ input) few)
    refine ⟨snapshot, there, tracks.later invariant (ConcurrentMetrics.step_later _ input) ?_⟩
    intro locked
    have reading : state.readLocked = true :=
      List.any_eq_true.mpr ⟨snapshot, List.mem_of_getElem? there, locked⟩
    rw [reading, Bool.true_and] at spared
    have unlocked := (tracks.listing locked).unlocked
    have same := state.metrics.step_unlocked input observes.sound.locked unlocked spared
    exact ⟨same.1, same.2.trans unlocked⟩

theorem Observes.step (invariant : ReadingInvariant first holds) {index : Nat}
    (state : ObservedMetrics) (input : ObservedInput)
    (observes : Observes holds first index state) :
    Observes holds first index (state.step input) := by
  obtain ⟨sound, later, tracked⟩ := observes
  cases input with
  | call input =>
      simp only [ObservedMetrics.step]
      split
      next => exact ⟨sound, later, tracked⟩
      next spared =>
        exact Observes.call invariant ⟨sound, later, tracked⟩ input
          (Bool.eq_false_of_not_eq_true spared)
  | snapshot =>
      refine ⟨sound, later, fun few => ?_⟩
      obtain ⟨snapshot, there, tracks⟩ := tracked few
      have inside := (List.getElem?_eq_some_iff.mp there).1
      exact ⟨snapshot, (List.getElem?_append_left inside).trans there, tracks⟩
  | load place order =>
      simp only [ObservedMetrics.step]
      split
      next loading found =>
        refine ⟨sound, later, fun few => ?_⟩
        obtain ⟨snapshot, there, tracks⟩ := tracked few
        by_cases same : place = index
        · obtain rfl := same
          obtain rfl : loading = snapshot := Option.some.inj (found.symm.trans there)
          have inside := (List.getElem?_eq_some_iff.mp there).1
          exact ⟨_, List.getElem?_set_self inside, tracks.advance invariant sound few later order⟩
        · exact ⟨snapshot, (List.getElem?_set_ne same).trans there, tracks⟩
      next => exact ⟨sound, later, tracked⟩

theorem run_sound (config : MetricsConfig) (clock : TimestampClock) (inputs : List ObservedInput) :
    (machine.run (withConfig config clock) inputs).metrics.Sound := by
  refine machine.run_invariant (fun state => state.metrics.Sound) ?_ _ inputs
    (ConcurrentMetrics.withConfig_sound config clock)
  intro state input sound
  cases input with
  | call input =>
      show (state.step (.call input)).metrics.Sound
      simp only [step]
      split
      next => exact sound
      next => exact ConcurrentMetrics.step_sound _ input sound
  | snapshot => exact sound
  | load place order =>
      show (state.step (.load place order)).metrics.Sound
      simp only [step]
      split <;> exact sound

theorem run_tracks (config : MetricsConfig) (clock : TimestampClock)
    (before during : List ObservedInput) (first now : ObservedMetrics)
    (begin : machine.run (withConfig config clock) before = first)
    (ended : machine.run (first.step .snapshot) during = now)
    (invariant : ReadingInvariant first.metrics holds)
    (few : now.metrics.calls.length < 2 ^ 64) :
    ∃ snapshot, now.snapshots[first.snapshots.length]? = some snapshot ∧
      Tracks holds first.metrics now.metrics snapshot ∧ now.metrics.Sound := by
  have sound : first.metrics.Sound := begin ▸ run_sound config clock before
  have started : Observes holds first.metrics first.snapshots.length (first.step .snapshot) :=
    ⟨sound, .refl _, fun _ => ⟨.start, by simp [step], Tracks.start holds _⟩⟩
  have observes := machine.run_invariant (Observes holds first.metrics first.snapshots.length)
    (fun state input => Observes.step invariant state input) _ during started
  rw [ended] at observes
  obtain ⟨snapshot, there, tracks⟩ := observes.tracked few
  exact ⟨snapshot, there, tracks, observes.sound⟩

end ObservedMetrics

/-! ## The counts of an entry -/

/-- The counts loaded so far lie between what the entry had when the snapshot began and what
it has now. -/
def Contained (first now : ConcurrentMetrics) (entry : Nat) (reading : MethodReading) : Prop :=
  ∀ count : Count, count.stage < reading.next.stage →
    first.counted count.counter entry ≤ (count.get reading.metrics).toNat ∧
      (count.get reading.metrics).toNat ≤ now.counted count.counter entry

theorem Count.stage_lt (count : Count) : count.stage < 3 := by
  cases count <;> decide

theorem MethodReading.load_past {reading : MethodReading} (stats : MethodStats)
    (past : reading.next.stage = 3) (count : Count) :
    count.get (reading.load stats).metrics = count.get reading.metrics := by
  obtain ⟨metrics, next⟩ := reading
  cases next with
  | callCount | successCount | failureCount => cases past
  | sampleCount | finished => rfl
  | totalLatency total => cases count <;> rfl
  | total percentile =>
      simp only [load]
      split
      next => exact Count.get_store _ _ _ _
      next => rfl
  | bin percentile targetCount index cumulativeCount =>
      simp only [load]
      split
      next =>
        split
        next => exact Count.get_store _ _ _ _
        next => rfl
      next => exact Count.get_store _ _ _ _

theorem count_loaded {first now : ConcurrentMetrics} {entry : Nat} (sound : now.Sound)
    (few : now.calls.length < 2 ^ 64) (later : first.Later now)
    (inside : entry < now.registry.allocated) (count : Count) :
    first.counted count.counter entry ≤ (count.counter.get (now.registry.stats entry)).toNat ∧
      (count.counter.get (now.registry.stats entry)).toNat ≤ now.counted count.counter entry := by
  rw [ConcurrentMetrics.count_toNat sound few count inside]
  exact ⟨later.counted _ _, Nat.le_refl _⟩

theorem contained_invariant (first : ConcurrentMetrics) :
    ReadingInvariant first (Contained first) where
  start _ _ _ earlier := absurd earlier (Nat.not_lt_zero _)
  later before after entry reading later contained count earlier :=
    have bounds := contained count earlier
    ⟨bounds.1, Nat.le_trans bounds.2 (later.counted _ _)⟩
  load now entry reading sound few later inside contained := by
    have loaded := count_loaded sound few later inside
    obtain ⟨metrics, next⟩ := reading
    cases next with
    | callCount =>
        intro count earlier
        cases count with
        | calls => exact loaded .calls
        | successes => exact absurd earlier (Nat.lt_irrefl 1)
        | failures => exact absurd earlier Nat.not_succ_lt_self
    | successCount =>
        intro count earlier
        cases count with
        | calls => exact contained .calls Nat.zero_lt_one
        | successes => exact loaded .successes
        | failures => exact absurd earlier (Nat.lt_irrefl 2)
    | failureCount =>
        intro count _
        cases count with
        | calls => exact contained .calls Nat.two_pos
        | successes => exact contained .successes Nat.one_lt_two
        | failures => exact loaded .failures
    | _ =>
        intro count _
        rw [MethodReading.load_past _ rfl]
        exact contained count count.stage_lt

namespace ObservedMetrics

/-- What a snapshot that is through with the map has to do with the registry when it began and
with the registry now. -/
structure SnapshotContained (first now : SharedRegistry) (snapshot : Snapshotting) : Prop where
  totals : ∀ total : Total, total.get first ≤ total.loaded snapshot ∧
    total.loaded snapshot ≤ total.get now
  names : (snapshot.methods.map Prod.fst).Perm now.methods.keys
  counts : ∀ name metrics, (name, metrics) ∈ snapshot.methods → ∃ entry,
    now.methods.lookup name = some entry ∧ ∀ count : Count,
      count.get metrics ≤ count.counter.get (now.stats entry) ∧
        (first.methods.lookup name = some entry →
          count.counter.get (first.stats entry) ≤ count.get metrics)

theorem total_le_tally {state : ConcurrentMetrics} (sound : state.Sound) (total : Total) :
    (total.get state.registry).toNat ≤ tally total.weight state.calls := by
  rw [sound.totals.get_eq, UInt64.toNat_ofNat']
  exact Nat.mod_le _ _

theorem count_le_counted {state : ConcurrentMetrics} (sound : state.Sound) (count : Count)
    {entry : Nat} (inside : entry < state.registry.allocated) :
    (count.counter.get (state.registry.stats entry)).toNat ≤
      state.counted count.counter entry := by
  rw [sound.balanced _ entry inside, UInt64.toNat_ofNat']
  exact Nat.mod_le _ _

theorem snapshot_contained (config : MetricsConfig) (clock : TimestampClock)
    (before during : List ObservedInput) (first now : ObservedMetrics) (snapshot : Snapshotting)
    (begin : machine.run (withConfig config clock) before = first)
    (ended : machine.run (first.step .snapshot) during = now)
    (few : now.metrics.calls.length < 2 ^ 64)
    (there : now.snapshots[first.snapshots.length]? = some snapshot)
    (through : snapshot.point = .entry []) :
    SnapshotContained first.metrics.registry now.metrics.registry snapshot := by
  have sound : first.metrics.Sound := begin ▸ run_sound config clock before
  obtain ⟨other, found, tracks, sound'⟩ := run_tracks config clock before during first now
    begin ended (contained_invariant first.metrics) few
  obtain rfl : other = snapshot := Option.some.inj (found.symm.trans there)
  have listing := tracks.listing (by rw [through]; rfl)
  constructor
  · intro total
    have bounds := tracks.totals total (by rw [through]; cases total <;> decide)
    rw [UInt64.le_iff_toNat_le, UInt64.le_iff_toNat_le,
      ConcurrentMetrics.total_toNat sound' few]
    exact ⟨Nat.le_trans (total_le_tally sound total) bounds.1, bounds.2⟩
  · simpa only [through, SnapshotPoint.left, List.map_nil, List.append_nil] using listing.names
  · intro name metrics member
    obtain ⟨entry, tracked, contained⟩ := listing.reports name metrics member
    obtain ⟨owner, owned⟩ := sound.owned
    obtain ⟨owner', owned'⟩ := sound'.owned
    refine ⟨entry, tracked, fun count => ?_⟩
    have bounds := contained count count.stage_lt
    rw [UInt64.le_iff_toNat_le, UInt64.le_iff_toNat_le,
      ConcurrentMetrics.count_toNat sound' few count (owned'.tracked name entry tracked).1]
    exact ⟨bounds.2, fun earlier => Nat.le_trans
      (count_le_counted sound count (owned.tracked name entry earlier).1) bounds.1⟩

/-! A call of `mul` adds to its entry between two loads of it. -/

def calls (index count : Nat) : List ObservedInput :=
  List.replicate count (.call (.advance index ⟨some 5, [], []⟩))

def loads (index count : Nat) : List ObservedInput :=
  List.replicate count (.load index ["mul", "sum"])

def recorded : List ObservedInput :=
  .call (.begin ⟨"sum", 7, true⟩) :: calls 0 34 ++ .call (.begin ⟨"mul", 9, false⟩) :: calls 1 8

def observed : List ObservedInput :=
  loads 0 6 ++ calls 1 14 ++ loads 0 24

def torn : Snapshotting where
  totalRequests := 2
  successfulRequests := 1
  failedRequests := 1
  methods := [("mul", ⟨0, 0, 1, 9, 1, 1, 1⟩), ("sum", ⟨1, 1, 0, 7, 1, 1, 1⟩)]
  point := .entry []

theorem snapshot_contained_witness :
    SnapshotContained (machine.run (withConfig .default .initial) recorded).metrics.registry
      (machine.run ((machine.run (withConfig .default .initial) recorded).step .snapshot)
        observed).metrics.registry torn :=
  snapshot_contained .default .initial recorded observed _ _ torn rfl rfl (by decide +kernel)
    (by decide +kernel) rfl

end ObservedMetrics

end MadRpc
