import KeyFlow.Proofs.Graph.Levels
import KeyFlow.Proofs.Graph.WellFormed

/-!
What is scheduled of a description that compiles: every node that is in use, each behind those that
it needs, and whatever it waits for is an input of the flow or stands before it.
-/

namespace KeyFlow

namespace Spec

variable {s : Spec}

theorem Sourced.grounded (sourced : s.Sourced) (acyclic : ∀ a, ¬ Relation.TransGen s.Needs a a) :
    s.graph.Grounded where
  inRange := by
    intro a b depends
    obtain ⟨_, n', _, placed', _⟩ := sourced.dependsOn_iff.mp depends
    rw [s.graph_nodes]
    exact (List.getElem?_eq_some_iff.mp placed').1
  acyclic := sourced.acyclic_iff.mpr acyclic

theorem Sourced.inRange (sourced : s.Sourced) : s.graph.InRange :=
  (draft_kept ((draft_clean s ⟨s.graph, []⟩).mpr ⟨sourced, rfl⟩).1).inRange

theorem WellFormed.grounded (formed : s.WellFormed) : s.graph.Grounded :=
  formed.sourced.grounded formed.acyclic

/-- The nodes that are enqueued are those that are reached. -/
theorem WellFormed.mem_enqueueOrder (formed : s.WellFormed) {id : NodeId} :
    id ∈ s.plan.enqueueOrder ↔ s.graph.Reached id := by
  rw [Plan.enqueueOrder, List.mem_filter, show s.plan.schedule = s.graph.schedule from rfl,
    ← Graph.mem_schedule_nodes, Graph.mem_schedule_iff formed.sourced.inRange]
  exact and_iff_right_of_imp fun reached =>
    formed.grounded.mem_order.mpr (formed.sourced.inRange.reached reached)

theorem WellFormed.enqueueOrder_nodup (formed : s.WellFormed) : s.plan.enqueueOrder.Nodup :=
  formed.grounded.order_nodup.filter _

theorem WellFormed.enqueueOrder_sorted (formed : s.WellFormed) :
    s.graph.Sorted s.plan.enqueueOrder := by
  refine formed.grounded.order_sorted.filter fun a b kept depends => ?_
  have scheduled {id : NodeId} : (s.plan.schedule.levelOf id).isSome = true ↔ s.graph.Reached id :=
    Graph.mem_schedule_nodes.symm.trans (Graph.mem_schedule_iff formed.sourced.inRange)
  exact scheduled.mpr (.dependency (scheduled.mp kept) depends)

/-- Whatever a node in use waits for is an input of the flow, or another node provides it. -/
theorem WellFormed.source (formed : s.WellFormed) {id : NodeId} {k : Key}
    (reached : s.graph.Reached id) (waits : k ∈ s.graph.dependenciesOf id) :
    k ∈ s.inputs.map (·.key) ∨
      ∃ d n, s.graph.nodes[d]? = some n ∧ k ∈ n.outputs ∧ d ∈ s.graph.dependencyNodes id := by
  have sourced := formed.sourced
  obtain ⟨n, placed⟩ : ∃ n, s.nodes[id]? = some n := by
    rw [← s.graph_nodes]
    exact ⟨_, List.getElem?_eq_getElem (sourced.inRange.reached reached)⟩
  have wanted : s.graph.Wanted k := by
    have inUse := (sourced.reached_iff placed).mp reached
    refine sourced.wanted_of_waits inUse ⟨id, n, placed, rfl, ?_⟩
    rwa [dependenciesOf_eq placed] at waits
  have given : (∃ a, s.Gives a k) ∨ k ∈ s.inputs.map (·.key) :=
    (sourced.wants_or_given wanted).elim (formed.given k) .inl
  refine given.symm.imp_right fun ⟨a, gives⟩ => ?_
  obtain ⟨d, n', placed', _, output⟩ := (provides_iff sourced.tasks).mpr gives
  exact ⟨d, n', by rw [s.graph_nodes, placed'], output,
    Graph.mem_dependencyNodes.mpr ⟨k, waits, sourced.providerOf.mpr ⟨n', placed', output⟩⟩⟩

/-- Every node is reached just where every task serves something. -/
theorem WellFormed.reached_iff (formed : s.WellFormed) :
    (∀ id < s.graph.nodes.length, s.graph.Reached id) ↔ ∀ t ∈ s.tasks, s.Serves t := by
  rw [← formed.sourced.all_inUse_iff formed.acyclic, s.graph_nodes]
  constructor
  · intro all n mem
    obtain ⟨id, placed⟩ := List.mem_iff_getElem?.mp mem
    exact (formed.sourced.reached_iff placed).mp
      (all id (List.getElem?_eq_some_iff.mp placed).1)
  · intro all id inRange
    exact (formed.sourced.reached_iff (List.getElem?_eq_getElem inRange)).mpr
      (all _ (List.getElem_mem inRange))

/-- Nothing is left out of the flow of `gatedSpec`. -/
theorem gatedSpec_serves : ∀ t ∈ gatedSpec.tasks, gatedSpec.Serves t := by
  intro t mem
  rw [List.mem_singleton.mp mem]
  exact .inr ⟨.named "out", List.mem_singleton_self _, .inl (List.mem_singleton_self _)⟩

theorem gatedSpec_reached {id : NodeId} (inRange : id < gatedSpec.graph.nodes.length) :
    gatedSpec.graph.Reached id :=
  gatedSpec_wellFormed.reached_iff.mpr gatedSpec_serves id inRange

end Spec

end KeyFlow
