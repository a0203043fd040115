import KeyFlow.Proofs.Graph.Cycles
import KeyFlow.Proofs.Graph.Placed

/-!
What the tasks and predicates of a description take, what they give, and what they need of each
other, said of the description alone. The needs have no cycle just where the keys of the graph have
none.
-/

namespace KeyFlow

namespace Spec

variable {s : Spec}

/-- The key is a parameter of the task or predicate. -/
inductive Takes (s : Spec) : NodeKind → Key → Prop where
  | task {i : Nat} {t : TaskDecl} {k : Key} (placed : s.tasks[i]? = some t)
    (param : k ∈ t.signature.inputs) : Takes s (.task i) k
  | predicate {i : Nat} {t : TaskDecl} {p : PredicateDecl} {k : Key}
    (placed : s.tasks[i]? = some t) (gated : t.predicate = some p)
    (param : k ∈ p.signature.inputs) : Takes s (.predicate i) k

/-- A task gives its results, and its completion if it is run for its effects; a predicate gives its
verdict. Keys of these two sorts can be among the results of a task as well. -/
inductive Gives (s : Spec) : NodeKind → Key → Prop where
  | result {i : Nat} {t : TaskDecl} {k : Key} (placed : s.tasks[i]? = some t)
    (result : k ∈ t.signature.outputs) : Gives s (.task i) k
  | completion {i : Nat} {t : TaskDecl} (placed : s.tasks[i]? = some t)
    (invoke : t.invoke = true) : Gives s (.task i) (.finished i)
  | verdict {i : Nat} {t : TaskDecl} {p : PredicateDecl} (placed : s.tasks[i]? = some t)
    (gated : t.predicate = some p) : Gives s (.predicate i) (.verdict i)

/-- A task needs its own predicate, and tasks and predicates need the producers of their
parameters. -/
inductive Needs (s : Spec) : NodeKind → NodeKind → Prop where
  | verdict {i : Nat} {t : TaskDecl} {p : PredicateDecl} (placed : s.tasks[i]? = some t)
    (gated : t.predicate = some p) : Needs s (.task i) (.predicate i)
  | param {a b : NodeKind} {k : Key} (takes : s.Takes a k) (gives : s.Gives b k) : Needs s a b

/-- A flow output, or a parameter of a task or predicate. -/
def Asks (s : Spec) (k : Key) : Prop := k ∈ s.outputs.map (·.key) ∨ ∃ a, s.Takes a k

theorem getElem?_mem {i : Nat} {t : TaskDecl} (placed : s.tasks[i]? = some t) : t ∈ s.tasks :=
  List.mem_of_getElem? placed

/-! ## Waiting and providing -/

/-- The node of this kind waits for the key. -/
def Waits (s : Spec) (a : NodeKind) (k : Key) : Prop :=
  ∃ (id : NodeId) (n : Node), s.nodes[id]? = some n ∧ n.kind = a ∧ k ∈ n.dependencies

/-- The node of this kind provides the key. -/
def Provides (s : Spec) (a : NodeKind) (k : Key) : Prop :=
  ∃ (id : NodeId) (n : Node), s.nodes[id]? = some n ∧ n.kind = a ∧ k ∈ n.outputs

/-- Nodes wait for their parameters, and those of gated tasks for their verdicts. -/
theorem waits_iff {a : NodeKind} {k : Key} :
    s.Waits a k ↔ s.Takes a k ∨ ∃ i t p, s.tasks[i]? = some t ∧ t.predicate = some p ∧
      a = .task i ∧ k = .verdict i := by
  constructor
  · rintro ⟨id, n, placed, rfl, mem⟩
    obtain ⟨i, t, task, ⟨rfl, rfl⟩ | ⟨p, gated, rfl, rfl⟩⟩ := node_cases placed
    · rw [Draft.taskNode, List.mem_append] at mem
      rcases mem with param | verdict
      · exact .inl (.task task param)
      · split at verdict
        · rename_i gated
          obtain ⟨p, gated⟩ := Option.isSome_iff_exists.mp gated
          exact .inr ⟨i, t, p, task, gated, rfl, List.mem_singleton.mp verdict⟩
        · cases verdict
    · exact .inl (.predicate task gated mem)
  · rintro (takes | ⟨i, t, p, task, gated, rfl, rfl⟩)
    · cases takes with
      | task task param => exact ⟨_, _, node_task task, rfl, List.mem_append_left _ param⟩
      | predicate task gated param => exact ⟨_, _, node_gate task gated, rfl, param⟩
    · refine ⟨_, _, node_task task, rfl, List.mem_append_right _ ?_⟩
      rw [if_pos (by rw [gated]; rfl)]
      exact List.mem_singleton_self _

/-- Nodes provide what is given, where tasks without results are those that are run for their
effects. -/
theorem provides_iff (tasks : ∀ t ∈ s.tasks, t.WellDeclared) {a : NodeKind} {k : Key} :
    s.Provides a k ↔ s.Gives a k := by
  constructor
  · rintro ⟨id, n, placed, rfl, mem⟩
    obtain ⟨i, t, task, ⟨rfl, rfl⟩ | ⟨p, gated, rfl, rfl⟩⟩ := node_cases placed
    · simp only [Draft.taskNode] at mem ⊢
      split at mem
      · rename_i invoke
        rw [List.mem_singleton.mp mem]
        exact .completion task invoke
      · exact .result task mem
    · rw [List.mem_singleton.mp mem]
      exact .verdict task gated
  · intro gives
    cases gives with
    | @result i t _ task result =>
      refine ⟨_, _, node_task task, rfl, ?_⟩
      rw [Draft.taskNode]
      by_cases invoke : t.invoke = true
      · rw [(tasks t (getElem?_mem task)).invoke.mpr invoke] at result
        cases result
      · rw [if_neg invoke]
        exact result
    | completion task invoke =>
      refine ⟨_, _, node_task task, rfl, ?_⟩
      rw [Draft.taskNode, if_pos invoke]
      exact List.mem_singleton_self _
    | verdict task gated => exact ⟨_, _, node_gate task gated, rfl, List.mem_singleton_self _⟩

/-- A key is provided by one node at most. -/
theorem Sourced.provides_unique (sourced : s.Sourced) {a b : NodeKind} {k : Key}
    (first : s.Provides a k) (second : s.Provides b k) : a = b := by
  obtain ⟨id, n, placed, rfl, mem⟩ := first
  obtain ⟨id', n', placed', rfl, mem'⟩ := second
  have one := sourced.providerOf.mpr ⟨n, placed, mem⟩
  have two := sourced.providerOf.mpr ⟨n', placed', mem'⟩
  rw [one, Option.some.injEq] at two
  rw [two, placed', Option.some.injEq] at placed
  rw [placed]

/-- There is one node of each kind. -/
theorem kind_unique {id id' : NodeId} {n n' : Node} (placed : s.nodes[id]? = some n)
    (placed' : s.nodes[id']? = some n') (same : n.kind = n'.kind) : id = id' := by
  obtain ⟨i, t, _, ⟨rfl, rfl⟩ | ⟨p, _, rfl, rfl⟩⟩ := node_cases placed <;>
    obtain ⟨j, u, _, ⟨rfl, rfl⟩ | ⟨q, _, rfl, rfl⟩⟩ := node_cases placed' <;>
    cases same <;> rfl

/-- One key is below another where one node waits for it and provides the other. -/
theorem Sourced.below_iff (sourced : s.Sourced) {k k' : Key} :
    s.graph.Below k' k ↔ ∃ a, s.Provides a k ∧ s.Waits a k' := by
  constructor
  · rintro ⟨id, found, mem⟩
    obtain ⟨n, placed, output⟩ := sourced.providerOf.mp found
    rw [dependenciesOf_eq placed] at mem
    exact ⟨n.kind, ⟨id, n, placed, rfl, output⟩, id, n, placed, rfl, mem⟩
  · rintro ⟨a, ⟨id, n, placed, rfl, output⟩, id', n', placed', same, mem⟩
    have one := kind_unique placed placed' same.symm
    subst one
    rw [placed, Option.some.injEq] at placed'
    subst placed'
    refine ⟨id, sourced.providerOf.mpr ⟨n, placed, output⟩, ?_⟩
    rw [dependenciesOf_eq placed]
    exact mem

theorem Sourced.gives_unique (sourced : s.Sourced) {a b : NodeKind} {k : Key}
    (first : s.Gives a k) (second : s.Gives b k) : a = b :=
  sourced.provides_unique ((provides_iff sourced.tasks).mpr first)
    ((provides_iff sourced.tasks).mpr second)

/-- A node needs another where it waits for one of its keys. -/
theorem Sourced.needs_iff (sourced : s.Sourced) {a b : NodeKind} :
    s.Needs a b ↔ ∃ k, s.Waits a k ∧ s.Provides b k := by
  constructor
  · intro needs
    cases needs with
    | verdict placed gated =>
      exact ⟨_, waits_iff.mpr (.inr ⟨_, _, _, placed, gated, rfl, rfl⟩),
        (provides_iff sourced.tasks).mpr (.verdict placed gated)⟩
    | param takes gives =>
      exact ⟨_, waits_iff.mpr (.inl takes), (provides_iff sourced.tasks).mpr gives⟩
  · rintro ⟨k, waits, provides⟩
    have gives := (provides_iff sourced.tasks).mp provides
    rcases waits_iff.mp waits with takes | ⟨i, t, p, placed, gated, rfl, rfl⟩
    · exact .param takes gives
    · rw [sourced.gives_unique gives (.verdict placed gated)]
      exact .verdict placed gated

/-! ## Cycles -/

/-- A node depends on another where it needs it. -/
theorem Sourced.dependsOn_iff (sourced : s.Sourced) {a b : NodeId} :
    s.graph.DependsOn a b ↔ ∃ n n', s.nodes[a]? = some n ∧ s.nodes[b]? = some n' ∧
      s.Needs n.kind n'.kind := by
  rw [Graph.DependsOn, Graph.mem_dependencyNodes]
  constructor
  · rintro ⟨k, dependency, found⟩
    obtain ⟨n', placed', output⟩ := sourced.providerOf.mp found
    rw [Graph.dependenciesOf, s.graph_nodes] at dependency
    split at dependency
    · rename_i n placed
      exact ⟨n, n', placed, placed', sourced.needs_iff.mpr
        ⟨k, ⟨a, n, placed, rfl, dependency⟩, b, n', placed', rfl, output⟩⟩
    · cases dependency
  · rintro ⟨n, n', placed, placed', needs⟩
    obtain ⟨k, ⟨id, m, there, same, dependency⟩, id', m', there', same', output⟩ :=
      sourced.needs_iff.mp needs
    obtain rfl := kind_unique there placed same
    obtain rfl := kind_unique there' placed' same'
    refine ⟨k, ?_, sourced.providerOf.mpr ⟨m', there', output⟩⟩
    rw [dependenciesOf_eq there]
    exact dependency

theorem Sourced.needs_of_dependsOn (sourced : s.Sourced) {a b : NodeId}
    (path : Relation.TransGen s.graph.DependsOn a b) :
    ∃ n n', s.nodes[a]? = some n ∧ s.nodes[b]? = some n' ∧
      Relation.TransGen s.Needs n.kind n'.kind := by
  induction path with
  | single depends =>
    obtain ⟨n, n', placed, placed', needs⟩ := sourced.dependsOn_iff.mp depends
    exact ⟨n, n', placed, placed', .single needs⟩
  | tail _ depends ih =>
    obtain ⟨n, n₁, placed, at₁, path⟩ := ih
    obtain ⟨n₂, n', at₂, placed', needs⟩ := sourced.dependsOn_iff.mp depends
    rw [at₁, Option.some.injEq] at at₂
    subst at₂
    exact ⟨n, n', placed, placed', .tail path needs⟩

/-- Whatever needs something or is needed has a node. -/
theorem Sourced.nodes_of_needs (sourced : s.Sourced) {a b : NodeKind} (needs : s.Needs a b) :
    ∃ (id id' : NodeId) (n n' : Node), s.nodes[id]? = some n ∧ n.kind = a ∧
      s.nodes[id']? = some n' ∧ n'.kind = b := by
  obtain ⟨k, ⟨id, n, placed, kind, _⟩, id', n', placed', kind', _⟩ := sourced.needs_iff.mp needs
  exact ⟨id, id', n, n', placed, kind, placed', kind'⟩

theorem Sourced.dependsOn_of_needs (sourced : s.Sourced) {a b : NodeKind}
    (path : Relation.TransGen s.Needs a b) :
    ∃ (id id' : NodeId) (n n' : Node), s.nodes[id]? = some n ∧ n.kind = a ∧
      s.nodes[id']? = some n' ∧ n'.kind = b ∧
      Relation.TransGen s.graph.DependsOn id id' := by
  induction path with
  | single needs =>
    obtain ⟨id, id', n, n', placed, rfl, placed', rfl⟩ := sourced.nodes_of_needs needs
    exact ⟨id, id', n, n', placed, rfl, placed', rfl,
      .single (sourced.dependsOn_iff.mpr ⟨n, n', placed, placed', needs⟩)⟩
  | tail _ needs ih =>
    obtain ⟨id, id₁, n, n₁, placed, rfl, at₁, rfl, path⟩ := ih
    obtain ⟨id₂, id', n₂, n', at₂, same, placed', rfl⟩ := sourced.nodes_of_needs needs
    obtain rfl := kind_unique at₂ at₁ same
    exact ⟨id, id', n, n', placed, rfl, placed', rfl,
      .tail path (sourced.dependsOn_iff.mpr ⟨n₂, n', at₂, placed', same ▸ needs⟩)⟩

theorem Sourced.acyclic_iff (sourced : s.Sourced) :
    (∀ id, ¬ Relation.TransGen s.graph.DependsOn id id) ↔
      ∀ a, ¬ Relation.TransGen s.Needs a a := by
  constructor
  · intro acyclic a cycle
    obtain ⟨id, id', n, n', placed, kind, placed', kind', path⟩ := sourced.dependsOn_of_needs cycle
    obtain rfl := kind_unique placed placed' (kind.trans kind'.symm)
    exact acyclic id path
  · intro acyclic id cycle
    obtain ⟨n, n', placed, placed', path⟩ := sourced.needs_of_dependsOn cycle
    rw [placed, Option.some.injEq] at placed'
    exact acyclic n.kind (placed' ▸ path)

theorem Sourced.findCycle_eq_none_iff (sourced : s.Sourced) :
    s.graph.findCycle = none ↔ ∀ a, ¬ Relation.TransGen s.Needs a a :=
  (Graph.findCycle_eq_none_iff s.graph).trans
    ((Graph.below_acyclic_iff s.graph).trans sourced.acyclic_iff)

end Spec

end KeyFlow
