import KeyFlow.Proofs.Graph.Clean

/-!
Look-ups in the graph of a description: where the nodes of a task stand, who provides a key and who
receives it.
-/

namespace KeyFlow

theorem nodesFrom_append (i : Nat) (ts us : List TaskDecl) :
    nodesFrom i (ts ++ us) = nodesFrom i ts ++ nodesFrom (i + ts.length) us := by
  induction ts generalizing i with
  | nil => rfl
  | cons t ts ih =>
    rw [List.cons_append, nodesFrom, nodesFrom, ih, List.append_assoc, List.length_cons]
    rw [Nat.add_assoc, Nat.add_comm 1]

namespace Graph

/-- Where the keys are provided. -/
theorem Laid.keys {g : Graph} (laid : g.Laid) :
    g.providers.map (·.1) = g.nodes.flatMap (·.outputs) := by
  rw [laid.providers, List.map_flatMap]
  conv_rhs => rw [← List.zipIdx_map_fst 0 g.nodes, List.flatMap_map]
  simp [Function.comp_def]

theorem Laid.mem_providers {g : Graph} (laid : g.Laid) {k : Key} {id : NodeId} :
    (k, id) ∈ g.providers ↔ ∃ n, g.nodes[id]? = some n ∧ k ∈ n.outputs := by
  rw [laid.providers, List.mem_flatMap]
  constructor
  · rintro ⟨⟨n, id'⟩, placed, mem⟩
    obtain ⟨k', output, same⟩ := List.mem_map.mp mem
    cases same
    exact ⟨n, List.mem_zipIdx_iff_getElem?.mp placed, output⟩
  · rintro ⟨n, placed, output⟩
    exact ⟨(n, id), List.mem_zipIdx_iff_getElem?.mpr placed, List.mem_map_of_mem output⟩

theorem Laid.mem_receivers {g : Graph} (laid : g.Laid) {k : Key} {r : Receiver} :
    (k, r) ∈ g.receivers ↔ (r = .flowOutput ∧ k ∈ g.outputs.map (·.key)) ∨
      ∃ id n, r = .node id ∧ g.nodes[id]? = some n ∧ k ∈ n.dependencies := by
  rw [laid.receivers, List.mem_append, List.mem_flatMap, List.mem_map, List.mem_map]
  refine or_congr ?_ ?_
  · constructor
    · rintro ⟨o, mem, same⟩
      cases same
      exact ⟨rfl, o, mem, rfl⟩
    · rintro ⟨rfl, o, mem, rfl⟩
      exact ⟨o, mem, rfl⟩
  · constructor
    · rintro ⟨⟨n, id⟩, placed, mem⟩
      obtain ⟨k', dependency, same⟩ := List.mem_map.mp mem
      cases same
      exact ⟨id, n, rfl, List.mem_zipIdx_iff_getElem?.mp placed, dependency⟩
    · rintro ⟨id, n, rfl, placed, dependency⟩
      exact ⟨(n, id), List.mem_zipIdx_iff_getElem?.mpr placed, List.mem_map_of_mem dependency⟩

end Graph

namespace Spec

variable {s : Spec}

/-- The node of the task at this position. -/
def place (s : Spec) (i : Nat) : NodeId := (nodesFrom 0 (s.tasks.take i)).length

theorem graph_nodes (s : Spec) : s.graph.nodes = s.nodes :=
  (s.declaredGraph.withTasks_frame s.tasks).2.2.2

theorem graph_inputs (s : Spec) : s.graph.inputs = s.inputs :=
  (s.declaredGraph.withTasks_frame s.tasks).1

theorem graph_outputs (s : Spec) : s.graph.outputs = s.outputs :=
  (s.declaredGraph.withTasks_frame s.tasks).2.1

theorem graph_tasks (s : Spec) (i : Nat) :
    s.graph.tasks[i]? = s.tasks[i]?.map (Draft.taskOf (s.place i) i) := by
  obtain ⟨more, eq, placed⟩ := s.declaredGraph.withTasks_tasks s.tasks
  have tasks : s.graph.tasks = more := eq
  rw [tasks, placed]
  simp [declaredGraph, emptyGraph, place]

theorem isFlowInput_iff (s : Spec) (k : Key) :
    s.graph.isFlowInput k = true ↔ k ∈ s.inputs.map (·.key) := by
  have inputs : s.graph.flowInputs = s.inputs.map fun i => (i.key, i.location) :=
    (s.declaredGraph.withTasks_frame s.tasks).2.2.1
  rw [Graph.isFlowInput, Graph.inputAt, lookup_isSome, inputs, map_inputs]

theorem graph_laid (s : Spec) : s.graph.Laid := by
  refine Graph.Laid.withTasks (g := s.declaredGraph) ⟨rfl, ?_⟩ s.tasks
  show _ = _ ++ []
  rw [List.append_nil]
  rfl

/-! ## The nodes of tasks -/

theorem nodes_split {i : Nat} {t : TaskDecl} (placed : s.tasks[i]? = some t) :
    s.nodes = nodesFrom 0 (s.tasks.take i) ++
      (taskNodes i t ++ nodesFrom (i + 1) (s.tasks.drop (i + 1))) := by
  obtain ⟨inRange, rfl⟩ := List.getElem?_eq_some_iff.mp placed
  have split : s.tasks = s.tasks.take i ++ s.tasks[i] :: s.tasks.drop (i + 1) := by
    rw [List.getElem_cons_drop, List.take_append_drop]
  have length : (s.tasks.take i).length = i := List.length_take_of_le (Nat.le_of_lt inRange)
  rw [nodes]
  conv_lhs => rw [split]
  rw [nodesFrom_append, length, Nat.zero_add, nodesFrom]

theorem node_task {i : Nat} {t : TaskDecl} (placed : s.tasks[i]? = some t) :
    s.nodes[s.place i]? = some (Draft.taskNode i i t) := by
  rw [nodes_split placed, place, List.getElem?_append_right (Nat.le_refl _), Nat.sub_self]
  rfl

theorem node_gate {i : Nat} {t : TaskDecl} {p : PredicateDecl} (placed : s.tasks[i]? = some t)
    (gated : t.predicate = some p) : s.nodes[s.place i + 1]? = some (Draft.gateNode i i p) := by
  rw [nodes_split placed, place, List.getElem?_append_right (Nat.le_add_right _ 1),
    Nat.add_sub_cancel_left, taskNodes, gated]
  rfl

/-- Every node is that of a task or of its predicate. -/
theorem node_cases {id : NodeId} {n : Node} (h : s.nodes[id]? = some n) :
    ∃ i t, s.tasks[i]? = some t ∧ ((id = s.place i ∧ n = Draft.taskNode i i t) ∨
      ∃ p, t.predicate = some p ∧ id = s.place i + 1 ∧ n = Draft.gateNode i i p) := by
  have general (ts : List TaskDecl) (first id : Nat) (n : Node)
      (h : (nodesFrom first ts)[id]? = some n) :
      ∃ i t, ts[i]? = some t ∧
        ((id = (nodesFrom first (ts.take i)).length ∧
            n = Draft.taskNode (first + i) (first + i) t) ∨
          ∃ p, t.predicate = some p ∧ id = (nodesFrom first (ts.take i)).length + 1 ∧
            n = Draft.gateNode (first + i) (first + i) p) := by
    induction ts generalizing first id with
    | nil => cases h
    | cons t ts ih =>
      rw [nodesFrom, List.getElem?_append] at h
      split at h
      · refine ⟨0, t, rfl, ?_⟩
        cases id with
        | zero => exact .inl ⟨rfl, (Option.some.inj h).symm⟩
        | succ id =>
          rw [taskNodes, List.getElem?_cons_succ] at h
          cases gated : t.predicate with
          | none =>
            rw [gated] at h
            cases h
          | some p =>
            rw [gated] at h
            cases id with
            | zero => exact .inr ⟨p, rfl, rfl, (Option.some.inj h).symm⟩
            | succ id => cases h
      · rename_i far
        obtain ⟨i, u, placed, found⟩ := ih (first + 1) _ h
        refine ⟨i + 1, u, placed, ?_⟩
        rw [List.take_succ_cons, nodesFrom, List.length_append,
          show first + (i + 1) = first + 1 + i by omega]
        rcases found with ⟨place, rfl⟩ | ⟨p, gated, place, rfl⟩
        · exact .inl ⟨by omega, rfl⟩
        · exact .inr ⟨p, gated, by omega, rfl⟩
  obtain ⟨i, t, placed, found⟩ := general s.tasks 0 id n h
  rw [Nat.zero_add] at found
  exact ⟨i, t, placed, found⟩

/-! ## Sources of keys -/

theorem Sourced.providerOf (sourced : s.Sourced) {k : Key} {id : NodeId} :
    s.graph.providerOf k = some id ↔ ∃ n, s.nodes[id]? = some n ∧ k ∈ n.outputs := by
  have once : (s.graph.providers.map (·.1)).Nodup := by
    rw [s.graph_laid.keys, s.graph_nodes]
    exact sourced.once
  rw [Graph.providerOf, lookup_iff_mem once, s.graph_laid.mem_providers, s.graph_nodes]

/-- A key without a provider is no output of a node. -/
theorem providerOf_none (s : Spec) {k : Key} :
    s.graph.providerOf k = none ↔ k ∉ s.nodes.flatMap (·.outputs) := by
  rw [Graph.providerOf, lookup_eq_none, s.graph_laid.keys, s.graph_nodes]

theorem dependenciesOf_eq {id : NodeId} {n : Node} (placed : s.nodes[id]? = some n) :
    s.graph.dependenciesOf id = n.dependencies := by
  rw [Graph.dependenciesOf, s.graph_nodes, placed]

end Spec

end KeyFlow
