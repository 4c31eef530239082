import MadRpc.Metrics.Concurrency

set_option autoImplicit false

namespace MadRpc

namespace Point

def pointer : Point → Option Nat
  | leaving entry | recording entry _ _ _ => some entry
  | _ => none

def program : Point → Option (Nat × List Update)
  | recording entry _ _ rest => some (entry, rest)
  | _ => none

def holdsLock : Point → Bool
  | retaining _ _ | limiting _ | ranking _ _ _ | removing _ _ | unlockCleanup _ => true
  | entering | creatingTime | creating _ | leaving _ => true
  | _ => false

def vacant : Point → Bool
  | creatingTime | creating _ => true
  | _ => false

end Point

namespace SharedRegistry

structure SameEntries (before after : SharedRegistry) : Prop where
  methods : after.methods = before.methods
  stats : after.stats = before.stats
  allocated : after.allocated = before.allocated

inductive Effect (call : MethodCall) (before : SharedRegistry) (point : Point)
    (after : SharedRegistry) : Point → Prop where
  | elsewhere {next : Point}
      (methods : ∀ method entry, after.methods.lookup method = some entry →
        before.methods.lookup method = some entry)
      (stats : after.stats = before.stats) (allocated : after.allocated = before.allocated)
      (pointer : next.pointer = point.pointer) (program : next.program = point.program) :
      Effect call before point after next
  | found (entry : Nat) (here : point = .entering)
      (tracked : before.methods.lookup call.method = some entry) (same : after = before) :
      Effect call before point after (.leaving entry)
  | created (systemTime now : UInt64) (here : point = .creating systemTime)
      (methods : after.methods = before.methods.insert call.method before.allocated)
      (stats : after.stats = Function.update before.stats before.allocated (.new now))
      (allocated : after.allocated = before.allocated + 1) :
      Effect call before point after (.leaving before.allocated)
  | left (entry : Nat) (here : point = .leaving entry) (same : SameEntries before after) :
      Effect call before point after (.recording entry 0 0 Update.recording)
  | updated (entry : Nat) (systemTime now systemTime' now' : UInt64) (next : Update)
      (rest : List Update) (here : point = .recording entry systemTime now (next :: rest))
      (methods : after.methods = before.methods)
      (stats : after.stats = Function.update before.stats entry
        (next.apply call now (before.stats entry)))
      (allocated : after.allocated = before.allocated) :
      Effect call before point after (.recording entry systemTime' now' rest)

theorem retain_effect (call : MethodCall) (registry : SharedRegistry) (now : UInt64)
    (name : String) (names : List String) :
    Effect call registry (.retaining now (name :: names)) (registry.retain now name)
      (.retaining now names) := by
  unfold retain
  split
  next =>
    split
    next => exact .elsewhere (fun _ _ found => found) rfl rfl rfl rfl
    next => exact .elsewhere (fun _ _ found => AList.lookup_of_lookup_erase found) rfl rfl rfl rfl
  next => exact .elsewhere (fun _ _ found => found) rfl rfl rfl rfl

theorem update_effect (call : MethodCall) (input : Surroundings) (registry : SharedRegistry)
    (entry : Nat) (systemTime now : UInt64) (next : Update) (rest : List Update) :
    let result := registry.update call input entry systemTime now next
    Effect call registry (.recording entry systemTime now (next :: rest)) result.1
      (.recording entry result.2.1 result.2.2 rest) := by
  cases next with
  | readSystemTime | exchange =>
      exact .updated entry systemTime now _ _ _ rest rfl rfl
        (Function.update_eq_self entry registry.stats).symm rfl
  | callCount | bin | totalLatency | sampleCount | outcome | lastAccess =>
      exact .updated entry systemTime now _ _ _ rest rfl rfl rfl rfl

theorem advance_effect (index : Nat) (call : MethodCall) (input : Surroundings)
    (registry : SharedRegistry) (point : Point) :
    Effect call registry point (registry.advance index call input point).1
      (registry.advance index call input point).2 := by
  have unchanged : ∀ method entry, registry.methods.lookup method = some entry →
      registry.methods.lookup method = some entry := fun _ _ found => found
  cases point with
  | incrementTotal | cleanupTime | cleanupExchange _ | unlockCleanup _ | cleaningNodes _
  | creatingTime =>
      exact .elsewhere unchanged rfl rfl rfl rfl
  | incrementOutcome | countCleanup | lockCleanup _ | limiting _ | lockEntry =>
      simp only [advance]
      split <;> exact .elsewhere unchanged rfl rfl rfl rfl
  | retaining now names =>
      cases names with
      | nil => exact .elsewhere unchanged rfl rfl rfl rfl
      | cons name names => exact retain_effect call registry now name names
  | ranking now names entries =>
      cases names <;> exact .elsewhere unchanged rfl rfl rfl rfl
  | removing now names =>
      cases names with
      | nil => exact .elsewhere unchanged rfl rfl rfl rfl
      | cons name names =>
          exact .elsewhere (fun _ _ found => AList.lookup_of_lookup_erase found) rfl rfl rfl rfl
  | entering =>
      simp only [advance]
      split
      next entry tracked => exact .found entry rfl tracked rfl
      next => exact .elsewhere unchanged rfl rfl rfl rfl
  | creating systemTime => exact .created systemTime _ rfl rfl rfl rfl
  | leaving entry => exact .left entry rfl ⟨rfl, rfl, rfl⟩
  | recording entry systemTime now rest =>
      cases rest with
      | nil => exact .elsewhere unchanged rfl rfl rfl rfl
      | cons next rest => exact update_effect call input registry entry systemTime now next rest

/-- What the lock gives a call: while it holds it, no other call changes the map. -/
structure Guarded (registry : SharedRegistry) (index : Nat) (call : MethodCall) (point : Point) :
    Prop where
  held : point.holdsLock = true → registry.methodsLock = some index
  absent : point.vacant = true → registry.methods.lookup call.method = none

structure Spares (index : Nat) (before after : SharedRegistry) : Prop where
  methods : before.methodsLock ≠ none → before.methodsLock ≠ some index →
    after.methods = before.methods
  lock : before.methodsLock ≠ none → before.methodsLock ≠ some index →
    after.methodsLock = before.methodsLock

theorem spares_of_same {index : Nat} {before after : SharedRegistry}
    (methods : after.methods = before.methods) (lock : after.methodsLock = before.methodsLock) :
    Spares index before after :=
  ⟨fun _ _ => methods, fun _ _ => lock⟩

theorem spares_of_held {index : Nat} {before after : SharedRegistry}
    (held : before.methodsLock = some index) : Spares index before after :=
  ⟨fun _ other => absurd held other, fun _ other => absurd held other⟩

theorem spares_of_free {index : Nat} {before after : SharedRegistry}
    (free : before.methodsLock = none) : Spares index before after :=
  ⟨fun taken => absurd free taken, fun taken => absurd free taken⟩

theorem retain_lock (registry : SharedRegistry) (now : UInt64) (name : String) :
    (registry.retain now name).methodsLock = registry.methodsLock := by
  unfold retain
  split
  next => split <;> rfl
  next => rfl

theorem update_same (call : MethodCall) (input : Surroundings) (registry : SharedRegistry)
    (entry : Nat) (systemTime now : UInt64) (next : Update) :
    (registry.update call input entry systemTime now next).1.methods = registry.methods ∧
      (registry.update call input entry systemTime now next).1.methodsLock =
        registry.methodsLock := by
  cases next <;> exact ⟨rfl, rfl⟩

theorem advance_spares (index : Nat) (call : MethodCall) (input : Surroundings)
    (registry : SharedRegistry) (point : Point) (guarded : Guarded registry index call point) :
    Spares index registry (registry.advance index call input point).1 := by
  cases point with
  | incrementTotal | countCleanup | cleanupTime | cleanupExchange _ | limiting _
  | cleaningNodes _ | entering | creatingTime => exact spares_of_same rfl rfl
  | incrementOutcome =>
      simp only [advance]
      split <;> exact spares_of_same rfl rfl
  | lockCleanup _ | lockEntry =>
      simp only [advance]
      split
      next free => exact spares_of_free free
      next => exact spares_of_same rfl rfl
  | retaining _ _ | ranking _ _ _ | removing _ _ | unlockCleanup _ | creating _ | leaving _ =>
      exact spares_of_held (guarded.held rfl)
  | recording entry systemTime now rest =>
      cases rest with
      | nil => exact spares_of_same rfl rfl
      | cons next rest =>
          have same := update_same call input registry entry systemTime now next
          exact spares_of_same same.1 same.2

theorem guarded_outside {registry : SharedRegistry} {index : Nat} {call : MethodCall}
    {point : Point} (free : point.holdsLock = false) (known : point.vacant = false) :
    Guarded registry index call point where
  held holds := absurd (free.symm.trans holds) Bool.false_ne_true
  absent vacant := absurd (known.symm.trans vacant) Bool.false_ne_true

theorem guarded_inside {registry : SharedRegistry} {index : Nat} {call : MethodCall}
    {point : Point} (held : registry.methodsLock = some index) (known : point.vacant = false) :
    Guarded registry index call point where
  held _ := held
  absent vacant := absurd (known.symm.trans vacant) Bool.false_ne_true

theorem advance_guarded (index : Nat) (call : MethodCall) (input : Surroundings)
    (registry : SharedRegistry) (point : Point) (guarded : Guarded registry index call point) :
    Guarded (registry.advance index call input point).1 index call
      (registry.advance index call input point).2 := by
  cases point with
  | incrementTotal | incrementOutcome | cleanupTime | cleanupExchange _ | unlockCleanup _
  | cleaningNodes _ | leaving _ => exact guarded_outside rfl rfl
  | countCleanup =>
      simp only [advance]
      split <;> exact guarded_outside rfl rfl
  | lockCleanup _ | lockEntry =>
      simp only [advance]
      split
      next => exact guarded_inside rfl rfl
      next => exact guarded_outside rfl rfl
  | retaining now names =>
      cases names with
      | nil => exact guarded_inside (guarded.held rfl) rfl
      | cons name names =>
          exact guarded_inside ((retain_lock registry now name).trans (guarded.held rfl)) rfl
  | limiting now =>
      simp only [advance]
      split <;> exact guarded_inside (guarded.held rfl) rfl
  | ranking _ names _ | removing _ names =>
      cases names <;> exact guarded_inside (guarded.held rfl) rfl
  | entering =>
      simp only [advance]
      split
      next => exact guarded_inside (guarded.held rfl) rfl
      next absent => exact ⟨fun _ => guarded.held rfl, fun _ => absent⟩
  | creatingTime => exact ⟨fun _ => guarded.held rfl, fun _ => guarded.absent rfl⟩
  | creating systemTime => exact guarded_inside (guarded.held rfl) rfl
  | recording entry systemTime now rest =>
      cases rest <;> exact guarded_outside rfl rfl

end SharedRegistry

namespace ConcurrentMetrics

open SharedRegistry

inductive Step (state : ConcurrentMetrics) : ConcurrentInput → ConcurrentMetrics → Prop where
  | began (call : MethodCall) :
      Step state (.begin call)
        { state with calls := state.calls ++ [⟨call, .incrementTotal⟩] }
  | unknown (index : Nat) (input : Surroundings) : Step state (.advance index input) state
  | advanced (index : Nat) (input : Surroundings) (active : ActiveCall)
      (here : state.calls[index]? = some active) :
      Step state (.advance index input)
        { registry := (state.registry.advance index active.call input active.point).1
          calls := state.calls.set index
            { active with
              point := (state.registry.advance index active.call input active.point).2 } }

theorem step_cases (state : ConcurrentMetrics) (input : ConcurrentInput) :
    Step state input (state.step input) := by
  cases input with
  | begin call => exact .began call
  | advance index input =>
      cases here : state.calls[index]? with
      | some active =>
          have stepped := Step.advanced index input active here
          simp only [step, here]
          exact stepped
      | none =>
          simp only [step, here]
          exact .unknown index input

def Locked (state : ConcurrentMetrics) : Prop :=
  ∀ index active, state.calls[index]? = some active →
    Guarded state.registry index active.call active.point

theorem step_locked (state : ConcurrentMetrics) (input : ConcurrentInput)
    (locked : state.Locked) : (state.step input).Locked := by
  have stepped := step_cases state input
  generalize state.step input = next at stepped
  cases stepped with
  | began call =>
    intro other found there
    rw [List.getElem?_append] at there
    split at there
    next => exact locked other found there
    next =>
      rw [List.getElem?_singleton] at there
      split at there
      next =>
        cases there
        exact guarded_outside rfl rfl
      next => cases there
  | unknown => exact locked
  | advanced index input active here =>
    have guarded := locked index active here
    have spares := advance_spares index active.call input state.registry active.point guarded
    intro other found there
    by_cases same : other = index
    · subst same
      have inside := (List.getElem?_eq_some_iff.mp here).1
      rw [List.getElem?_set_self inside] at there
      cases there
      exact advance_guarded other active.call input state.registry active.point guarded
    · rw [List.getElem?_set_ne (Ne.symm same)] at there
      have before := locked other found there
      have taken (holds : found.point.holdsLock = true) :
          state.registry.methodsLock ≠ none ∧ state.registry.methodsLock ≠ some index := by
        rw [before.held holds]
        exact ⟨nofun, fun mine => same (Option.some.inj mine)⟩
      constructor
      · intro holds
        rw [spares.lock (taken holds).1 (taken holds).2]
        exact before.held holds
      · intro vacant
        have holds : found.point.holdsLock = true := by
          cases point : found.point <;> rw [point] at vacant <;> first | rfl | cases vacant
        rw [spares.methods (taken holds).1 (taken holds).2]
        exact before.absent vacant

end ConcurrentMetrics

end MadRpc
