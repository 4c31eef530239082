import Mathlib.Data.List.Dedup
import MadRpc.Orchestrator.Bypass
import MadRpc.Orchestrator.Orchestrator

set_option autoImplicit false

namespace MadRpc.LoadBalancer

def disabledNodes (lb : LoadBalancer) (order : List String) : List String :=
  order.filter fun addr => (lb.nodes.lookup addr).any fun node => !node.enabled

/-- Every address is listed at most once, and the rotation and the disabled nodes are
all the nodes there are, whatever order the map is iterated in. -/
structure RotationUnique (lb : LoadBalancer) : Prop where
  distinct : lb.enabledNodes.Nodup
  counted : ∀ order, order.Perm lb.nodes.keys →
    lb.enabledCount + (lb.disabledNodes order).length = lb.nodeCount

theorem disabledNodes_length (lb : LoadBalancer) (order : List String)
    (iterated : order.Perm lb.nodes.keys) :
    (lb.disabledNodes order).length = (lb.disabledNodes lb.nodes.keys).length :=
  (iterated.filter _).length_eq

theorem enabledKeys_length (lb : LoadBalancer) :
    (lb.nodes.keys.filter fun addr => (lb.nodes.lookup addr).any Node.enabled).length +
      (lb.disabledNodes lb.nodes.keys).length = lb.nodeCount := by
  have others : lb.disabledNodes lb.nodes.keys =
      lb.nodes.keys.filter fun addr => !(lb.nodes.lookup addr).any Node.enabled := by
    apply List.filter_congr
    intro addr member
    obtain ⟨node, found⟩ := Option.isSome_iff_exists.mp (AList.lookup_isSome.mpr member)
    simp [found]
  rw [others]
  exact (List.length_eq_length_filter_add _).symm

theorem Consistent.dedup_perm {lb : LoadBalancer} (consistent : Consistent lb) :
    lb.enabledNodes.dedup.Perm
      (lb.nodes.keys.filter fun addr => (lb.nodes.lookup addr).any Node.enabled) := by
  rw [List.perm_ext_iff_of_nodup (List.nodup_dedup _) (lb.nodes.keys_nodup.filter _)]
  intro addr
  rw [List.mem_dedup, consistent.rotation addr, List.mem_filter, Option.any_eq_true]
  constructor
  · rintro ⟨node, found, enabled⟩
    exact ⟨AList.lookup_isSome.mp (by simp [found]), node, found, enabled⟩
  · rintro ⟨_, node, found, enabled⟩
    exact ⟨node, found, enabled⟩

theorem Consistent.counted_iff {lb : LoadBalancer} (consistent : Consistent lb)
    (order : List String) (iterated : order.Perm lb.nodes.keys) :
    lb.enabledCount + (lb.disabledNodes order).length = lb.nodeCount ↔
      lb.enabledNodes.Nodup := by
  -- Without its repetitions the rotation is as long as the list of the enabled keys.
  have kept := consistent.dedup_perm.length_eq
  have split := lb.enabledKeys_length
  rw [lb.disabledNodes_length order iterated, enabledCount, ← List.dedup_eq_self]
  constructor
  · intro counted
    exact (List.dedup_sublist _).eq_of_length (by omega)
  · intro distinct
    rw [distinct] at kept
    omega

theorem Consistent.rotationUnique_iff {lb : LoadBalancer} (consistent : Consistent lb) :
    RotationUnique lb ↔ lb.enabledNodes.Nodup :=
  ⟨RotationUnique.distinct, fun distinct =>
    ⟨distinct, fun order iterated => (consistent.counted_iff order iterated).mpr distinct⟩⟩

theorem rotation_unique (nodeAddrs : List String) (config : CircuitBreakerConfig)
    (operations : List Operation) :
    (machine.Throughout RotationUnique (new nodeAddrs) operations ↔ nodeAddrs.Nodup) ∧
      (machine.Throughout RotationUnique (withConfig nodeAddrs config) operations ↔
        nodeAddrs.Nodup) := by
  have exact' (config : CircuitBreakerConfig) :
      machine.Throughout RotationUnique (withConfig nodeAddrs config) operations ↔
        nodeAddrs.Nodup := by
    constructor
    · -- The first state already lists the addresses as they were given.
      intro throughout
      exact throughout.first.distinct
    · intro distinct
      refine (machine.throughout_of_steps Wellformed (fun _ _ => True)
        (fun lb operation wellformed _ => perform_wellformed lb operation wellformed) _ operations
        ⟨withConfig_consistent nodeAddrs config, distinct⟩
        (machine.eachStep_of_forall _ _ operations fun _ _ => trivial)).mono ?_
      exact fun lb wellformed => wellformed.rotationUnique_iff.mpr wellformed.distinct
  exact ⟨exact' .default, exact' config⟩

theorem rotation_repeats :
    let lb := machine.run (new ["http://a", "http://a"]) []
    ¬ lb.enabledNodes.Nodup ∧
      lb.enabledCount + (lb.disabledNodes lb.nodes.keys).length ≠ lb.nodeCount := by
  decide

end MadRpc.LoadBalancer
