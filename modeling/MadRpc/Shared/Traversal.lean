import Mathlib.Data.Set.Finite.Basic
import Mathlib.Data.Set.Finite.List
import Mathlib.Logic.Relation

set_option autoImplicit false

/-!
# Depth-first traversals of a graph

The children of a node are read and visited one after another, and the first error ends the
traversal. Nothing marks the nodes passed, so it returns at some depth of recursion or at none.
-/

universe u v w

structure Traversal (Node : Type u) (Out : Type v) (Err : Type w) where
  reads : Node → List (Except Err Node)
  build : Node → List Out → Out

namespace Traversal

variable {Node : Type u} {Out : Type v} {Err : Type w}

def walk (visit : Node → Option (Except Err Out)) :
    List (Except Err Node) → Option (Except Err (List Out))
  | [] => some (.ok [])
  | .error err :: _ => some (.error err)
  | .ok child :: rest =>
      match visit child with
      | none => none
      | some (.error err) => some (.error err)
      | some (.ok out) => (walk visit rest).map (Except.map (out :: ·))

def visit (traversal : Traversal Node Out Err) : Nat → Node → Option (Except Err Out)
  | 0, _ => none
  | depth + 1, node =>
      (walk (traversal.visit depth) (traversal.reads node)).map (Except.map (traversal.build node))

/-! ## One walk over the children -/

section Walk

variable {visit deeper : Node → Option (Except Err Out)}

def Passes (visit : Node → Option (Except Err Out)) (read : Except Err Node) : Prop :=
  ∃ child out, read = .ok child ∧ visit child = some (.ok out)

theorem walk_cases {child : Node} {rest : List (Except Err Node)}
    {result : Except Err (List Out)} (walked : walk visit (.ok child :: rest) = some result) :
    (∃ err, visit child = some (.error err) ∧ result = .error err) ∨
      ∃ out others, visit child = some (.ok out) ∧ walk visit rest = some others ∧
        result = others.map (out :: ·) := by
  rw [walk] at walked
  cases visited : visit child with
  | none =>
      rw [visited] at walked
      cases walked
  | some first =>
      rw [visited] at walked
      rcases first with err | out
      · cases walked
        exact .inl ⟨err, rfl, rfl⟩
      · obtain ⟨others, later, rfl⟩ := Option.map_eq_some_iff.mp walked
        exact .inr ⟨out, others, rfl, later, rfl⟩

theorem walk_ok {reads : List (Except Err Node)} {outs : List Out}
    (walked : walk visit reads = some (.ok outs)) : ∀ read ∈ reads, Passes visit read := by
  induction reads generalizing outs with
  | nil => exact nofun
  | cons read rest ih =>
      rcases read with err | child
      · cases walked
      · rcases walk_cases walked with ⟨err, -, same⟩ | ⟨out, others, visited, later, same⟩
        · cases same
        · rcases others with err | others
          · cases same
          · exact List.forall_mem_cons.mpr ⟨⟨child, out, rfl, visited⟩, ih later⟩

theorem walk_error {reads : List (Except Err Node)} {err : Err}
    (walked : walk visit reads = some (.error err)) :
    ∃ before read after, reads = before ++ read :: after ∧
      (∀ earlier ∈ before, Passes visit earlier) ∧
      (read = .error err ∨ ∃ child, read = .ok child ∧ visit child = some (.error err)) := by
  induction reads with
  | nil => cases walked
  | cons read rest ih =>
      rcases read with other | child
      · cases walked
        exact ⟨[], .error err, rest, rfl, nofun, .inl rfl⟩
      · rcases walk_cases walked with ⟨other, visited, same⟩ | ⟨out, others, visited, later, same⟩
        · cases same
          exact ⟨[], .ok child, rest, rfl, nofun, .inr ⟨child, rfl, visited⟩⟩
        · rcases others with other | others
          · cases same
            obtain ⟨before, read, after, split, passed, ended⟩ := ih later
            exact ⟨.ok child :: before, read, after, by rw [split, List.cons_append],
              List.forall_mem_cons.mpr ⟨⟨child, out, rfl, visited⟩, passed⟩, ended⟩
          · cases same

theorem walk_append {before : List (Except Err Node)}
    (passed : ∀ read ∈ before, Passes visit read) (after : List (Except Err Node)) :
    ∃ outs, walk visit (before ++ after) = (walk visit after).map (Except.map (outs ++ ·)) := by
  induction before with
  | nil =>
      refine ⟨[], ?_⟩
      rw [List.nil_append]
      rcases walk visit after with _ | _ | _ <;> rfl
  | cons read rest ih =>
      obtain ⟨⟨child, out, rfl, visited⟩, others⟩ := List.forall_mem_cons.mp passed
      obtain ⟨outs, later⟩ := ih others
      refine ⟨out :: outs, ?_⟩
      rw [List.cons_append, walk, visited, later]
      rcases walk visit after with _ | _ | _ <;> rfl

theorem walk_mono (agree : ∀ child result, visit child = some result →
      deeper child = some result) {reads : List (Except Err Node)}
    {result : Except Err (List Out)} (walked : walk visit reads = some result) :
    walk deeper reads = some result := by
  induction reads generalizing result with
  | nil => exact walked
  | cons read rest ih =>
      rcases read with err | child
      · exact walked
      · rw [walk]
        rcases walk_cases walked with ⟨err, visited, rfl⟩ | ⟨out, others, visited, later, rfl⟩
        · rw [agree child _ visited]
        · rw [agree child _ visited, ih later]
          rfl

/-- A walk returns only once it has been through every child that no error keeps it from. -/
theorem walk_stuck {before : List (Except Err Node)}
    (passable : ∀ read ∈ before,
      ∃ child, read = .ok child ∧ ∀ err, visit child ≠ some (.error err))
    {child : Node} (stuck : visit child = none) (after : List (Except Err Node)) :
    walk visit (before ++ .ok child :: after) = none := by
  induction before with
  | nil => rw [List.nil_append, walk, stuck]
  | cons read rest ih =>
      obtain ⟨⟨first, rfl, noError⟩, others⟩ := List.forall_mem_cons.mp passable
      rw [List.cons_append, walk, ih others]
      cases visited : visit first with
      | none => rfl
      | some result =>
          rcases result with err | out
          · exact absurd visited (noError err)
          · rfl

end Walk

/-! ## Nodes below which there is no error -/

variable (traversal : Traversal Node Out Err)

/-- Every read below the node gives a child, and none of them is below itself. -/
inductive Clean : Node → Prop where
  | intro {node : Node} (noError : ∀ err, .error err ∉ traversal.reads node)
      (children : ∀ child, .ok child ∈ traversal.reads node → Clean child) : Clean node

def CleanRead : Except Err Node → Prop
  | .ok child => traversal.Clean child
  | .error _ => False

/-- The traversal of the node comes to the child: whatever is read before it is clean. -/
def Visits (node child : Node) : Prop :=
  ∃ before after, traversal.reads node = before ++ .ok child :: after ∧
    ∀ read ∈ before, traversal.CleanRead read

def Fails (node : Node) (err : Err) : Prop :=
  ∃ before after, traversal.reads node = before ++ .error err :: after ∧
    ∀ read ∈ before, traversal.CleanRead read

def Returns (node : Node) : Prop :=
  ∃ depth result, traversal.visit depth node = some result

variable {traversal}

theorem clean_iff {node : Node} :
    traversal.Clean node ↔ ∀ read ∈ traversal.reads node, traversal.CleanRead read := by
  constructor
  · rintro ⟨noError, children⟩ (err | child) member
    · exact noError err member
    · exact children child member
  · exact fun clean => ⟨fun err member => clean _ member, fun child member => clean _ member⟩

theorem visit_mono {depth deeper : Nat} (le : depth ≤ deeper) {node : Node}
    {result : Except Err Out} (visited : traversal.visit depth node = some result) :
    traversal.visit deeper node = some result := by
  induction depth generalizing deeper node result with
  | zero => cases visited
  | succ depth ih =>
      obtain ⟨more, rfl⟩ := Nat.exists_eq_add_of_le' (Nat.lt_of_lt_of_le (Nat.succ_pos depth) le)
      obtain ⟨outs, walked, rfl⟩ := Option.map_eq_some_iff.mp visited
      rw [visit, walk_mono (fun child first => ih (Nat.le_of_succ_le_succ le)) walked]
      rfl

theorem visit_error {depth : Nat} {node : Node} {err : Err}
    (visited : traversal.visit (depth + 1) node = some (.error err)) :
    walk (traversal.visit depth) (traversal.reads node) = some (.error err) := by
  obtain ⟨outs, walked, built⟩ := Option.map_eq_some_iff.mp visited
  rcases outs with other | outs
  · cases built
    exact walked
  · cases built

theorem clean_of_ok {depth : Nat} {node : Node} {out : Out}
    (visited : traversal.visit depth node = some (.ok out)) : traversal.Clean node := by
  induction depth generalizing node out with
  | zero => cases visited
  | succ depth ih =>
      obtain ⟨outs, walked, built⟩ := Option.map_eq_some_iff.mp visited
      rcases outs with err | outs
      · cases built
      · rw [clean_iff]
        intro read member
        obtain ⟨child, out, rfl, below⟩ := walk_ok walked read member
        exact ih below

theorem cleanRead_of_passes {depth : Nat} {read : Except Err Node}
    (passed : Passes (traversal.visit depth) read) : traversal.CleanRead read := by
  obtain ⟨child, out, rfl, visited⟩ := passed
  exact clean_of_ok visited

theorem Clean.not_error {node : Node} (clean : traversal.Clean node) (depth : Nat) (err : Err) :
    traversal.visit depth node ≠ some (.error err) := by
  intro visited
  induction depth generalizing node with
  | zero => cases visited
  | succ depth ih =>
      obtain ⟨before, read, after, split, -, ended⟩ := walk_error (visit_error visited)
      have here := clean_iff.mp clean read (by simp [split])
      rcases ended with rfl | ⟨child, rfl, below⟩
      · exact here
      · exact ih here below

theorem passes_of_returns {reads : List (Except Err Node)}
    (returned : ∀ read ∈ reads, ∃ depth, Passes (traversal.visit depth) read) :
    ∃ depth, ∀ read ∈ reads, Passes (traversal.visit depth) read := by
  induction reads with
  | nil => exact ⟨0, nofun⟩
  | cons read rest ih =>
      obtain ⟨⟨first, child, out, same, visited⟩, others⟩ := List.forall_mem_cons.mp returned
      obtain ⟨depth, passed⟩ := ih others
      refine ⟨max first depth, List.forall_mem_cons.mpr
        ⟨⟨child, out, same, visit_mono (Nat.le_max_left _ _) visited⟩, fun other member => ?_⟩⟩
      obtain ⟨child, out, same, visited⟩ := passed other member
      exact ⟨child, out, same, visit_mono (Nat.le_max_right _ _) visited⟩

theorem Clean.returns {node : Node} (clean : traversal.Clean node) :
    ∃ depth out, traversal.visit depth node = some (.ok out) := by
  induction clean with
  | @intro node noError children ih =>
      have returned : ∀ read ∈ traversal.reads node,
          ∃ depth, Passes (traversal.visit depth) read := by
        rintro (err | child) member
        · exact absurd member (noError err)
        · obtain ⟨depth, out, visited⟩ := ih child member
          exact ⟨depth, child, out, rfl, visited⟩
      obtain ⟨depth, passed⟩ := passes_of_returns returned
      obtain ⟨outs, walked⟩ := walk_append passed []
      rw [List.append_nil] at walked
      exact ⟨depth + 1, traversal.build node (outs ++ []), by rw [visit, walked]; rfl⟩

theorem passes_of_clean {reads : List (Except Err Node)}
    (clean : ∀ read ∈ reads, traversal.CleanRead read) :
    ∃ depth, ∀ read ∈ reads, Passes (traversal.visit depth) read := by
  refine passes_of_returns fun read member => ?_
  have here := clean read member
  rcases read with err | child
  · cases here
  · obtain ⟨depth, out, visited⟩ := Clean.returns here
    exact ⟨depth, child, out, rfl, visited⟩

theorem exists_fails_of_error {depth : Nat} {node : Node} {err : Err}
    (visited : traversal.visit depth node = some (.error err)) :
    ∃ last, Relation.ReflTransGen traversal.Visits node last ∧ traversal.Fails last err := by
  induction depth generalizing node with
  | zero => cases visited
  | succ depth ih =>
      obtain ⟨before, read, after, split, passed, ended⟩ := walk_error (visit_error visited)
      have clean := fun earlier member => cleanRead_of_passes (passed earlier member)
      rcases ended with rfl | ⟨child, rfl, below⟩
      · exact ⟨node, .refl, before, after, split, clean⟩
      · obtain ⟨last, reached, fails⟩ := ih below
        exact ⟨last, .head ⟨before, after, split, clean⟩ reached, fails⟩

theorem error_of_split {node : Node} {before after : List (Except Err Node)}
    {read : Except Err Node} (split : traversal.reads node = before ++ read :: after)
    (clean : ∀ earlier ∈ before, traversal.CleanRead earlier) {depth : Nat} {err : Err}
    (ended : ∀ deeper, depth ≤ deeper →
      walk (traversal.visit deeper) (read :: after) = some (.error err)) :
    ∃ deeper, traversal.visit deeper node = some (.error err) := by
  obtain ⟨enough, passed⟩ := passes_of_clean clean
  have deeper : ∀ earlier ∈ before, Passes (traversal.visit (max enough depth)) earlier := by
    intro earlier member
    obtain ⟨child, out, same, visited⟩ := passed earlier member
    exact ⟨child, out, same, visit_mono (Nat.le_max_left _ _) visited⟩
  obtain ⟨outs, walked⟩ := walk_append deeper (read :: after)
  refine ⟨max enough depth + 1, ?_⟩
  rw [visit, split, walked, ended _ (Nat.le_max_right _ _)]
  rfl

theorem error_of_fails {node last : Node} {err : Err}
    (reached : Relation.ReflTransGen traversal.Visits node last)
    (fails : traversal.Fails last err) :
    ∃ depth, traversal.visit depth node = some (.error err) := by
  induction reached using Relation.ReflTransGen.head_induction_on with
  | refl =>
      obtain ⟨before, after, split, clean⟩ := fails
      exact @error_of_split _ _ _ _ _ _ _ _ split clean 0 _ fun _ _ => rfl
  | head visits _ ih =>
      obtain ⟨before, after, split, clean⟩ := visits
      obtain ⟨depth, visited⟩ := ih
      refine @error_of_split _ _ _ _ _ _ _ _ split clean depth _ fun deeper le => ?_
      rw [walk, visit_mono le visited]

theorem Visits.below {node child : Node} (visits : traversal.Visits node child) {depth : Nat}
    {result : Except Err Out} (visited : traversal.visit depth node = some result) :
    ∃ less result, less < depth ∧ traversal.visit less child = some result := by
  obtain ⟨before, after, split, clean⟩ := visits
  cases depth with
  | zero => cases visited
  | succ depth =>
      obtain ⟨outs, walked, -⟩ := Option.map_eq_some_iff.mp visited
      rw [split] at walked
      cases below : traversal.visit depth child with
      | some result => exact ⟨depth, result, Nat.lt_succ_self depth, below⟩
      | none =>
          have passable : ∀ read ∈ before, ∃ child, read = .ok child ∧
              ∀ err, traversal.visit depth child ≠ some (.error err) := by
            intro read member
            have here := clean read member
            rcases read with err | first
            · cases here
            · exact ⟨first, rfl, Clean.not_error here depth⟩
          rw [walk_stuck passable below] at walked
          cases walked

theorem below_of_transGen {node last : Node}
    (reached : Relation.TransGen traversal.Visits node last) {depth : Nat}
    {result : Except Err Out} (visited : traversal.visit depth node = some result) :
    ∃ less result, less < depth ∧ traversal.visit less last = some result := by
  induction reached with
  | single visits => exact visits.below visited
  | tail _ visits ih =>
      obtain ⟨between, result, less, visited⟩ := ih
      obtain ⟨lower, result, lesser, visited⟩ := visits.below visited
      exact ⟨lower, result, Nat.lt_trans lesser less, visited⟩

theorem Returns.not_cyclic {node : Node} (returns : traversal.Returns node) :
    ¬ Relation.TransGen traversal.Visits node node := by
  intro cycle
  obtain ⟨depth, result, visited⟩ := returns
  induction depth using Nat.strong_induction_on generalizing result with
  | h depth ih =>
      obtain ⟨lower, result, less, visited⟩ := below_of_transGen cycle visited
      exact ih lower less result visited

theorem Returns.reached {node last : Node} (returns : traversal.Returns node)
    (reached : Relation.ReflTransGen traversal.Visits node last) : traversal.Returns last := by
  induction reached with
  | refl => exact returns
  | tail _ visits ih =>
      obtain ⟨depth, result, visited⟩ := ih
      obtain ⟨lower, result, -, visited⟩ := visits.below visited
      exact ⟨lower, result, visited⟩

theorem walk_returns {node : Node}
    (children : ∀ child, traversal.Visits node child → traversal.Returns child)
    {before after : List (Except Err Node)} (split : traversal.reads node = before ++ after)
    (clean : ∀ read ∈ before, traversal.CleanRead read) :
    ∃ depth result, walk (traversal.visit depth) after = some result := by
  induction after generalizing before with
  | nil => exact ⟨0, _, rfl⟩
  | cons read rest ih =>
      rcases read with err | child
      · exact ⟨0, _, rfl⟩
      · obtain ⟨depth, result, visited⟩ := children child ⟨before, rest, split, clean⟩
        rcases result with err | out
        · exact ⟨depth, .error err, by rw [walk, visited]⟩
        · have further : ∀ read ∈ before ++ [.ok child], traversal.CleanRead read := by
            intro read member
            rcases List.mem_append.mp member with early | last
            · exact clean read early
            · rw [List.mem_singleton.mp last]
              exact clean_of_ok visited
          have resplit : traversal.reads node = (before ++ [.ok child]) ++ rest := by
            rw [split, List.append_assoc, List.singleton_append]
          obtain ⟨other, result, walked⟩ := ih resplit further
          refine ⟨max depth other, result.map (out :: ·), ?_⟩
          rw [walk, visit_mono (Nat.le_max_left _ _) visited,
            walk_mono (fun _ _ => visit_mono (Nat.le_max_right _ _)) walked]
          rfl

theorem returns_of_visits {node : Node}
    (children : ∀ child, traversal.Visits node child → traversal.Returns child) :
    traversal.Returns node := by
  obtain ⟨depth, result, walked⟩ := walk_returns children (List.nil_append _).symm nofun
  exact ⟨depth + 1, result.map (traversal.build node), by rw [visit, walked]; rfl⟩

theorem reached_mem {nodes : Set Node} (closed : ∀ node ∈ nodes, ∀ child,
      .ok child ∈ traversal.reads node → child ∈ nodes) {node last : Node} (start : node ∈ nodes)
    (reached : Relation.ReflTransGen traversal.Visits node last) : last ∈ nodes := by
  induction reached with
  | refl => exact start
  | tail _ visits ih =>
      obtain ⟨before, after, split, -⟩ := visits
      exact closed _ ih _ (by simp [split])

/-- Over finitely many nodes, a traversal returns exactly if it comes to no node that it would come
back to. -/
theorem returns_iff {node : Node}
    (finite : {last | Relation.ReflTransGen traversal.Visits node last}.Finite) :
    traversal.Returns node ↔ ¬ ∃ last, Relation.ReflTransGen traversal.Visits node last ∧
      Relation.TransGen traversal.Visits last last := by
  constructor
  · rintro returns ⟨last, reached, cycle⟩
    exact (returns.reached reached).not_cyclic cycle
  · intro acyclic
    let Reached := {last // Relation.ReflTransGen traversal.Visits node last}
    let below (child parent : Reached) : Prop :=
      Relation.TransGen traversal.Visits parent.1 child.1
    have finite : Finite Reached := finite
    have trans : IsTrans Reached below := ⟨fun _ _ _ first second => second.trans first⟩
    have irrefl : Std.Irrefl below := ⟨fun last cycle => acyclic ⟨last.1, last.2, cycle⟩⟩
    have wellFounded : WellFounded below := Finite.wellFounded_of_trans_of_irrefl below
    have every : ∀ last : Reached, traversal.Returns last.1 := fun last =>
      wellFounded.induction last fun last ih => returns_of_visits fun child visits =>
        ih ⟨child, last.2.tail visits⟩ (.single visits)
    exact every ⟨node, .refl⟩

end Traversal
