import KeyFlow.Proofs.Flow.Enqueued

/-!
What a plan has of its flow. Whatever is reached from what the flow is run for is scheduled once and
taken in behind all that it depends on, and every key that it waits for has one source. That is all
of the flow if every task is run for its effects or asked for one of its results.
-/

namespace KeyFlow

namespace Graph

/-- The key is an output of the node. -/
def Provides (g : Graph) (id : NodeId) (k : Key) : Prop :=
  ∃ n, g.nodes[id]? = some n ∧ k ∈ n.outputs

/-- The key comes from exactly one node, or else from the inputs of the flow. -/
def Resolves (g : Graph) (k : Key) : Prop :=
  (g.isFlowInput k = false ∧ ∃ d, g.providerOf k = some d ∧ ∀ d', g.Provides d' k ↔ d' = d) ∨
    (g.isFlowInput k = true ∧ g.providerOf k = none ∧ ∀ d, ¬ g.Provides d k)

/-- The task and its predicate have nodes of their own. -/
def Places (g : Graph) (i : Nat) (t : Task) : Prop :=
  (g.nodes[t.node]?).map Node.kind = some (.task i) ∧
    ∀ gate, t.gate = some gate → (g.nodes[gate.node]?).map Node.kind = some (.predicate i)

end Graph

/-- What is reached is scheduled once and behind all that it depends on, and what it waits for can
be had. -/
structure Plan.Sound (p : Plan) : Prop where
  placed : ∀ i t, p.graph.tasks[i]? = some t → p.graph.Places i t
  ordered : p.order.Perm (List.range p.graph.nodes.length)
  once : p.schedule.nodes.Nodup
  scheduled : ∀ id, id ∈ p.schedule.nodes ↔ p.graph.Reached id
  within : p.enqueueOrder.Sublist p.order
  enqueued : ∀ id, id ∈ p.enqueueOrder ↔ p.graph.Reached id
  sorted : p.graph.Sorted p.enqueueOrder
  resolved : ∀ id, p.graph.Reached id → ∀ k ∈ p.graph.dependenciesOf id, p.graph.Resolves k
  /-- No key has two sources, whether somebody waits for it or not. -/
  single : ∀ id k, p.graph.Provides id k → p.graph.Resolves k

/-- Where a node is taken in, the handles of all that it depends on are at hand, and they are those
of the right jobs. -/
def Flow.Linked (f : Flow) : Prop :=
  ∀ before id after, f.plan.enqueueOrder = before ++ id :: after →
    ∃ handles q, f.enqueue before [] (Scheduler.create 0 f.settings) = .ok (handles, q) ∧
      (f.plan.graph.dependencyNodes id).filterMap (handles.lookup ·) =
        (f.plan.graph.dependencyNodes id).map fun d => ⟨q.id, f.plan.enqueueOrder.idxOf d⟩

namespace Spec

variable {s : Spec}

theorem graph_tasks_length (s : Spec) : s.graph.tasks.length = s.tasks.length := by
  refine Nat.le_antisymm (not_lt.mp fun lt => ?_) (not_lt.mp fun lt => ?_)
  · have placed := s.graph_tasks s.tasks.length
    rw [List.getElem?_eq_getElem lt, List.getElem?_eq_none (Nat.le_refl _)] at placed
    cases placed
  · have placed := s.graph_tasks s.graph.tasks.length
    rw [List.getElem?_eq_getElem lt, List.getElem?_eq_none (Nat.le_refl _)] at placed
    cases placed

theorem Sourced.provides_iff (sourced : s.Sourced) {id : NodeId} {k : Key} :
    s.graph.Provides id k ↔ s.graph.providerOf k = some id := by
  rw [Graph.Provides, s.graph_nodes, sourced.providerOf]

end Spec

theorem Compiled.linked {s : FlowSpec} {f : Flow} (compiled : Compiled s f) : f.Linked := by
  intro before id after split
  have placed : f.plan.enqueueOrder[before.length]? = some id := by
    rw [split, List.getElem?_append_right (Nat.le_refl _), Nat.sub_self]
    rfl
  obtain ⟨handles, q, eq, entered⟩ :=
    compiled.enqueue_ok (Nat.le_of_lt (List.getElem?_eq_some_iff.mp placed).1)
  refine ⟨handles, q, ?_, ?_⟩
  · rwa [show f.plan.enqueueOrder.take before.length = before by rw [split, List.take_left]] at eq
  · rw [entered.id]
    exact compiled.handles_eq entered placed

end KeyFlow
