import Mathlib.Data.Fintype.Card
import Mathlib.Data.Fintype.EquivFin
import KeyFlow.Proofs.Graph.Sources

/-!
What a run of a flow is for, said of the description alone: what gives the flow outputs, what is run
for its effects, and whatever those need. These are the nodes that are reached from the roots, and
their parameters are the keys that are wanted. Without cycles they are all that there is just where
every task is asked for something.
-/

namespace KeyFlow

namespace Spec

variable {s : Spec}

/-- A run of the flow is for this task or predicate. -/
inductive InUse (s : Spec) : NodeKind → Prop where
  | output {a : NodeKind} {k : Key} (asked : k ∈ s.outputs.map (·.key)) (gives : s.Gives a k) :
    InUse s a
  | effects {i : Nat} {t : TaskDecl} (placed : s.tasks[i]? = some t) (invoke : t.invoke = true) :
    InUse s (.task i)
  | needed {a b : NodeKind} (inUse : InUse s a) (needs : s.Needs a b) : InUse s b

/-- A flow output, or a parameter of a task or predicate in use. -/
def Wants (s : Spec) (k : Key) : Prop :=
  k ∈ s.outputs.map (·.key) ∨ ∃ a, s.InUse a ∧ s.Takes a k

/-- Every result of a task is asked for, but for those that stand for the completion of a task or
for the verdict of a predicate. -/
def AllUsed (s : Spec) : Prop :=
  ∀ t ∈ s.tasks, ∀ k ∈ t.signature.outputs, k.isSentinel = false → s.Asks k

theorem Wants.asks {k : Key} (wants : s.Wants k) : s.Asks k :=
  wants.imp_right fun ⟨a, _, takes⟩ => ⟨a, takes⟩

/-! ## Outputs that nobody receives -/

theorem receiversOf_ne_nil_iff {k : Key} :
    s.graph.receiversOf k ≠ [] ↔ k ∈ s.outputs.map (·.key) ∨ ∃ a, s.Waits a k := by
  constructor
  · intro nonempty
    obtain ⟨r, mem⟩ := List.exists_mem_of_ne_nil _ nonempty
    rcases s.graph_laid.mem_receivers.mp (Draft.mem_receiversOf.mp mem) with
      ⟨_, output⟩ | ⟨id, n, _, placed, dependency⟩
    · rw [s.graph_outputs] at output
      exact .inl output
    · rw [s.graph_nodes] at placed
      exact .inr ⟨n.kind, id, n, placed, rfl, dependency⟩
  · rintro (output | ⟨_, id, n, placed, _, dependency⟩)
    · rw [← s.graph_outputs] at output
      exact List.ne_nil_of_mem
        (Draft.mem_receiversOf.mpr (s.graph_laid.mem_receivers.mpr (.inl ⟨rfl, output⟩)))
    · rw [← s.graph_nodes] at placed
      exact List.ne_nil_of_mem (Draft.mem_receiversOf.mpr
        (s.graph_laid.mem_receivers.mpr (.inr ⟨id, n, rfl, placed, dependency⟩)))

theorem receiversOf_ne_nil_iff_asks {k : Key} (user : k.isSentinel = false) :
    s.graph.receiversOf k ≠ [] ↔ s.Asks k := by
  rw [receiversOf_ne_nil_iff]
  refine or_congr Iff.rfl (exists_congr fun a => waits_iff.trans (or_iff_left ?_))
  rintro ⟨_, _, _, _, _, _, rfl⟩
  cases user

theorem unusedOutputs_eq_nil (sourced : s.Sourced) : s.graph.unusedOutputs = [] ↔ s.AllUsed := by
  have unheard (k : Key) : (!k.isSentinel && (s.graph.receiversOf k).isEmpty) = true ↔
      k.isSentinel = false ∧ ¬ s.Asks k := by
    rw [Bool.and_eq_true, Bool.not_eq_true', List.isEmpty_iff]
    refine and_congr_right fun user => ?_
    rw [← receiversOf_ne_nil_iff_asks user, not_not]
  have fine : s.graph.unusedOutputs = [] ↔
      ∀ k ∈ s.nodes.flatMap (·.outputs), k.isSentinel = false → s.Asks k := by
    simp only [Graph.unusedOutputs, List.flatMap_eq_nil_iff, s.graph_nodes, List.map_eq_nil_iff,
      List.filter_eq_nil_iff, unheard, List.mem_flatMap, not_and, not_not]
    exact ⟨fun h k ⟨n, mem, output⟩ => h n mem k output,
      fun h n mem k output => h k ⟨n, mem, output⟩⟩
  rw [fine]
  constructor
  · intro all t mem k output
    obtain ⟨i, placed⟩ := List.mem_iff_getElem?.mp mem
    exact all k ((mem_nodeOutputs_iff sourced.tasks).mpr ⟨_, .result placed output⟩)
  · intro all k given user
    obtain ⟨a, gives⟩ := (mem_nodeOutputs_iff sourced.tasks).mp given
    cases gives with
    | result placed result => exact all _ (getElem?_mem placed) k result user
    | completion | verdict => cases user

/-! ## What is reached -/

theorem mem_roots_of_output (sourced : s.Sourced) {k : Key} {id : NodeId} {n : Node}
    (output : k ∈ s.outputs.map (·.key)) (placed : s.nodes[id]? = some n)
    (provided : k ∈ n.outputs) :
    id ∈ s.graph.roots := by
  obtain ⟨d, declared, rfl⟩ := List.mem_map.mp output
  refine mem_distinct.mpr (List.mem_append_left _ (List.mem_filterMap.mpr ⟨d, ?_, ?_⟩))
  · rw [s.graph_outputs]
    exact declared
  · exact sourced.providerOf.mpr ⟨n, placed, provided⟩

theorem mem_roots_of_invoke {i : Nat} {t : TaskDecl} (placed : s.tasks[i]? = some t)
    (invoke : t.invoke = true) : s.place i ∈ s.graph.roots := by
  refine mem_distinct.mpr (List.mem_append_right _ (List.mem_map.mpr
    ⟨Draft.taskOf (s.place i) i t, List.mem_filter.mpr ⟨?_, invoke⟩, rfl⟩))
  refine List.mem_of_getElem? (i := i) ?_
  rw [s.graph_tasks, placed]
  rfl

theorem inUse_of_root (sourced : s.Sourced) {id : NodeId} (root : id ∈ s.graph.roots) {n : Node}
    (placed : s.nodes[id]? = some n) : s.InUse n.kind := by
  rw [Graph.roots, mem_distinct, List.mem_append] at root
  rcases root with output | invoke
  · obtain ⟨d, declared, found⟩ := List.mem_filterMap.mp output
    obtain ⟨n', placed', provided⟩ := sourced.providerOf.mp found
    rw [placed, Option.some.injEq] at placed'
    subst placed'
    rw [s.graph_outputs] at declared
    exact .output (List.mem_map_of_mem declared)
      ((provides_iff sourced.tasks).mp ⟨id, n, placed, rfl, provided⟩)
  · obtain ⟨task, mem, rfl⟩ := List.mem_map.mp invoke
    obtain ⟨mem, invoke⟩ := List.mem_filter.mp mem
    obtain ⟨i, atTask⟩ := List.mem_iff_getElem?.mp mem
    rw [s.graph_tasks, Option.map_eq_some_iff] at atTask
    obtain ⟨t, atTask, rfl⟩ := atTask
    rw [show (Draft.taskOf (s.place i) i t).node = s.place i from rfl, node_task atTask,
      Option.some.injEq] at placed
    subst placed
    exact .effects atTask invoke

/-- What is reached from the roots is what is in use. -/
theorem Sourced.reached_iff (sourced : s.Sourced) {id : NodeId} {n : Node}
    (placed : s.nodes[id]? = some n) : s.graph.Reached id ↔ s.InUse n.kind := by
  constructor
  · intro reached
    induction reached generalizing n with
    | root mem => exact inUse_of_root sourced mem placed
    | dependency _ mem ih =>
      obtain ⟨n₁, n', at₁, at₂, needs⟩ := sourced.dependsOn_iff.mp mem
      rw [placed, Option.some.injEq] at at₂
      exact .needed (ih at₁) (at₂ ▸ needs)
  · intro inUse
    generalize kind : n.kind = a at inUse
    induction inUse generalizing id n with
    | output asked gives =>
      obtain ⟨id', n', placed', same, provided⟩ := (provides_iff sourced.tasks).mpr gives
      obtain rfl := kind_unique placed placed' (kind.trans same.symm)
      exact .root (mem_roots_of_output sourced asked placed' provided)
    | effects task invoke =>
      obtain rfl := kind_unique placed (node_task task) kind
      exact .root (mem_roots_of_invoke task invoke)
    | needed _ needs ih =>
      obtain ⟨id₁, id', n₁, n', at₁, rfl, at₂, same⟩ := sourced.nodes_of_needs needs
      obtain rfl := kind_unique placed at₂ (kind.trans same.symm)
      exact .dependency (ih at₁ rfl) (sourced.dependsOn_iff.mpr ⟨n₁, n', at₁, at₂, same ▸ needs⟩)

/-! ## What is wanted -/

theorem mem_demands_of_output {k : Key} (output : k ∈ s.outputs.map (·.key)) :
    k ∈ s.graph.demands.map (·.1) := by
  obtain ⟨d, declared, rfl⟩ := List.mem_map.mp output
  rw [Graph.demands, List.map_append, s.graph_outputs]
  refine List.mem_append_left _ ?_
  rw [List.map_map]
  exact List.mem_map_of_mem declared

theorem mem_demands_of_invoke {i : Nat} {t : TaskDecl} (placed : s.tasks[i]? = some t)
    (invoke : t.invoke = true) : .finished i ∈ s.graph.demands.map (·.1) := by
  have task : Draft.taskOf (s.place i) i t ∈ s.graph.tasks.filter (·.invoke) := by
    refine List.mem_filter.mpr ⟨List.mem_of_getElem? (i := i) ?_, invoke⟩
    rw [s.graph_tasks, placed]
    rfl
  rw [Graph.demands, List.map_append]
  refine List.mem_append_right _ (List.mem_map.mpr ⟨(.finished i, t.location), ?_, rfl⟩)
  refine List.mem_flatMap.mpr ⟨_, task, ?_⟩
  have node : s.graph.nodes[(Draft.taskOf (s.place i) i t).node]? =
      some (Draft.taskNode i i t) := by
    rw [s.graph_nodes]
    exact node_task placed
  rw [node]
  refine List.mem_map.mpr ⟨.finished i, ?_, rfl⟩
  rw [Draft.taskNode, if_pos invoke]
  exact List.mem_singleton_self _

/-- What is demanded is a flow output or stands for a task that is run for its effects. -/
theorem demands_cases {k : Key} (mem : k ∈ s.graph.demands.map (·.1)) :
    k ∈ s.outputs.map (·.key) ∨ ∃ i t, s.tasks[i]? = some t ∧ t.invoke = true ∧
      k = .finished i := by
  rw [Graph.demands, List.map_append, List.mem_append, s.graph_outputs, List.map_map] at mem
  refine mem.imp id fun mem => ?_
  obtain ⟨demand, listed, rfl⟩ := List.mem_map.mp mem
  obtain ⟨task, chosen, provided⟩ := List.mem_flatMap.mp listed
  obtain ⟨mem, invoke⟩ := List.mem_filter.mp chosen
  obtain ⟨i, placed⟩ := List.mem_iff_getElem?.mp mem
  rw [s.graph_tasks, Option.map_eq_some_iff] at placed
  obtain ⟨t, placed, rfl⟩ := placed
  have invoke : t.invoke = true := invoke
  have node : s.graph.nodes[(Draft.taskOf (s.place i) i t).node]? =
      some (Draft.taskNode i i t) := by
    rw [s.graph_nodes]
    exact node_task placed
  rw [node] at provided
  obtain ⟨k, output, rfl⟩ := List.mem_map.mp provided
  rw [Draft.taskNode, if_pos invoke] at output
  exact ⟨i, t, placed, invoke, List.mem_singleton.mp output⟩

/-- Whatever gives a wanted key is in use. -/
theorem Sourced.inUse_of_wanted (sourced : s.Sourced) {k : Key} (wanted : s.graph.Wanted k)
    {a : NodeKind} (gives : s.Gives a k) : s.InUse a := by
  induction wanted generalizing a with
  | demanded mem =>
    rcases demands_cases mem with output | ⟨i, t, placed, invoke, rfl⟩
    · exact .output output gives
    · rw [sourced.gives_unique gives (.completion placed invoke)]
      exact .effects placed invoke
  | follows _ below ih =>
    obtain ⟨b, provides, waits⟩ := sourced.below_iff.mp below
    exact .needed (ih ((provides_iff sourced.tasks).mp provides))
      (sourced.needs_iff.mpr ⟨_, waits, (provides_iff sourced.tasks).mpr gives⟩)

/-- Whatever is in use gives a wanted key. -/
theorem Sourced.wanted_of_inUse (sourced : s.Sourced) {a : NodeKind} (inUse : s.InUse a) :
    ∃ k, s.Provides a k ∧ s.graph.Wanted k := by
  induction inUse with
  | output asked gives =>
    exact ⟨_, (provides_iff sourced.tasks).mpr gives, .demanded (mem_demands_of_output asked)⟩
  | effects placed invoke =>
    exact ⟨_, (provides_iff sourced.tasks).mpr (.completion placed invoke),
      .demanded (mem_demands_of_invoke placed invoke)⟩
  | needed _ needs ih =>
    obtain ⟨k, provides, wanted⟩ := ih
    obtain ⟨k', waits, provides'⟩ := sourced.needs_iff.mp needs
    exact ⟨k', provides', .follows wanted (sourced.below_iff.mpr ⟨_, provides, waits⟩)⟩

theorem Sourced.wanted_of_waits (sourced : s.Sourced) {a : NodeKind} {k : Key} (inUse : s.InUse a)
    (waits : s.Waits a k) : s.graph.Wanted k := by
  obtain ⟨_, provides, wanted⟩ := sourced.wanted_of_inUse inUse
  exact .follows wanted (sourced.below_iff.mpr ⟨a, provides, waits⟩)

theorem Sourced.wanted_of_wants (sourced : s.Sourced) {k : Key} (wants : s.Wants k) :
    s.graph.Wanted k := by
  rcases wants with output | ⟨a, inUse, takes⟩
  · exact .demanded (mem_demands_of_output output)
  · exact sourced.wanted_of_waits inUse (waits_iff.mpr (.inl takes))

/-- What is wanted besides has a source in any case. -/
theorem Sourced.wants_or_given (sourced : s.Sourced) {k : Key} (wanted : s.graph.Wanted k) :
    s.Wants k ∨ ∃ a, s.Gives a k := by
  cases wanted with
  | demanded mem =>
    rcases demands_cases mem with output | ⟨i, t, placed, invoke, rfl⟩
    · exact .inl (.inl output)
    · exact .inr ⟨_, .completion placed invoke⟩
  | follows wanted below =>
    obtain ⟨a, provides, waits⟩ := sourced.below_iff.mp below
    rcases waits_iff.mp waits with takes | ⟨i, t, p, placed, gated, _, rfl⟩
    · exact .inl (.inr ⟨a,
        sourced.inUse_of_wanted wanted ((provides_iff sourced.tasks).mp provides), takes⟩)
    · exact .inr ⟨_, .verdict placed gated⟩

/-! ## Where everything is in use -/

/-- The task is run for its effects, or one of its results is asked for. -/
def Serves (s : Spec) (t : TaskDecl) : Prop :=
  t.invoke = true ∨ ∃ k ∈ t.signature.outputs, s.Asks k

theorem inUse_or_needed (serve : ∀ t ∈ s.tasks, s.Serves t) {id : NodeId} {n : Node}
    (placed : s.nodes[id]? = some n) : s.InUse n.kind ∨ ∃ a, s.Needs a n.kind := by
  obtain ⟨i, t, task, ⟨rfl, rfl⟩ | ⟨p, gated, rfl, rfl⟩⟩ := node_cases placed
  · rcases serve t (getElem?_mem task) with invoke | ⟨k, result, output | ⟨a, takes⟩⟩
    · exact .inl (.effects task invoke)
    · exact .inl (.output output (.result task result))
    · exact .inr ⟨a, .param takes (.result task result)⟩
  · exact .inr ⟨.task i, .verdict task gated⟩

/-- Without cycles everything is in use, for whoever needs it is. -/
theorem Sourced.all_inUse (sourced : s.Sourced) (serve : ∀ t ∈ s.tasks, s.Serves t)
    (acyclic : ∀ a, ¬ Relation.TransGen s.Needs a a) {id : NodeId} {n : Node}
    (placed : s.nodes[id]? = some n) : s.InUse n.kind := by
  let above (i j : Fin s.nodes.length) : Prop :=
    Relation.TransGen s.Needs s.nodes[i].kind s.nodes[j].kind
  have : IsTrans _ above := ⟨fun _ _ _ => Relation.TransGen.trans⟩
  have : Std.Irrefl above := ⟨fun i => acyclic _⟩
  have wf : WellFounded above := Finite.wellFounded_of_trans_of_irrefl above
  have all (j : Fin s.nodes.length) : s.InUse s.nodes[j].kind := by
    induction j using wf.induction with
    | _ j ih =>
      rcases inUse_or_needed serve (List.getElem?_eq_getElem j.2) with inUse | ⟨a, needs⟩
      · exact inUse
      · obtain ⟨id', _, n', _, placed', rfl, _⟩ := sourced.nodes_of_needs needs
        obtain ⟨inRange, rfl⟩ := List.getElem?_eq_some_iff.mp placed'
        exact .needed (ih ⟨id', inRange⟩ (.single needs)) needs
  obtain ⟨inRange, rfl⟩ := List.getElem?_eq_some_iff.mp placed
  exact all ⟨id, inRange⟩

/-- A task in use serves something. -/
theorem InUse.serves {i : Nat} {t : TaskDecl} (placed : s.tasks[i]? = some t)
    (inUse : s.InUse (.task i)) : s.Serves t := by
  have own {k : Key} (gives : s.Gives (.task i) k) :
      t.invoke = true ∨ k ∈ t.signature.outputs := by
    cases gives with
    | result placed' result =>
      rw [placed, Option.some.injEq] at placed'
      exact .inr (placed' ▸ result)
    | completion placed' invoke =>
      rw [placed, Option.some.injEq] at placed'
      exact .inl (placed' ▸ invoke)
  cases inUse with
  | output asked gives => exact (own gives).imp_right fun result => ⟨_, result, .inl asked⟩
  | effects placed' invoke =>
    rw [placed, Option.some.injEq] at placed'
    exact .inl (placed' ▸ invoke)
  | needed _ needs =>
    cases needs with
    | param takes gives => exact (own gives).imp_right fun result => ⟨_, result, .inr ⟨_, takes⟩⟩

/-- Everything is in use just where every task serves something. -/
theorem Sourced.all_inUse_iff (sourced : s.Sourced)
    (acyclic : ∀ a, ¬ Relation.TransGen s.Needs a a) :
    (∀ n ∈ s.nodes, s.InUse n.kind) ↔ ∀ t ∈ s.tasks, s.Serves t := by
  constructor
  · intro all t mem
    obtain ⟨i, placed⟩ := List.mem_iff_getElem?.mp mem
    exact InUse.serves placed (all _ (List.mem_of_getElem? (node_task placed)))
  · intro serve n mem
    obtain ⟨id, placed⟩ := List.mem_iff_getElem?.mp mem
    exact sourced.all_inUse serve acyclic placed

end Spec

end KeyFlow
