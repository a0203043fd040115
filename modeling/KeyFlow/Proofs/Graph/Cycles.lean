import KeyFlow.Plan
import KeyFlow.Proofs.Graph.Clean
import KeyFlow.Proofs.Graph.InRange
import KeyFlow.Proofs.Graph.Ordered
import Mathlib.Data.List.Chain
import Mathlib.Data.List.TakeWhile

/-!
The search for a cycle finds one just where a node depends on itself, and the hops that it reports
go round once. Nodes and keys have the same cycles: a node on one waits for a key of the next, and
that key stands below the one for which the node itself is waited for.
-/

namespace KeyFlow

namespace Graph

variable {g : Graph}

/-! ## Cycles of keys and of nodes -/

theorem below_of_dependsOn {a b : NodeId} (path : Relation.TransGen g.DependsOn a b) :
    ∃ k k', k ∈ g.dependenciesOf a ∧ g.providerOf k' = some b ∧
      Relation.ReflTransGen g.Below k' k := by
  induction path with
  | single depends =>
    obtain ⟨k, waits, found⟩ := mem_dependencyNodes.mp depends
    exact ⟨k, k, waits, found, .refl⟩
  | tail _ depends ih =>
    obtain ⟨k, k', waits, found, below⟩ := ih
    obtain ⟨k₁, waits₁, found₁⟩ := mem_dependencyNodes.mp depends
    exact ⟨k, k₁, waits, found₁, .head ⟨_, found, waits₁⟩ below⟩

theorem dependsOn_of_below {k' k : Key} (path : Relation.TransGen g.Below k' k) {b : NodeId}
    (found : g.providerOf k' = some b) :
    ∃ a, g.providerOf k = some a ∧ Relation.TransGen g.DependsOn a b := by
  induction path with
  | single below =>
    obtain ⟨a, provides, waits⟩ := below
    exact ⟨a, provides, .single (mem_dependencyNodes.mpr ⟨_, waits, found⟩)⟩
  | tail _ below ih =>
    obtain ⟨c, found', path⟩ := ih
    obtain ⟨a, provides, waits⟩ := below
    exact ⟨a, provides, .head (mem_dependencyNodes.mpr ⟨_, waits, found'⟩) path⟩

theorem below_acyclic_iff (g : Graph) : (∀ k, ¬ Relation.TransGen g.Below k k) ↔
    ∀ id, ¬ Relation.TransGen g.DependsOn id id := by
  constructor
  · intro acyclic id cycle
    obtain ⟨k, k', waits, found, below⟩ := below_of_dependsOn cycle
    exact acyclic k' (.tail' below ⟨id, found, waits⟩)
  · intro acyclic k cycle
    obtain ⟨_, _, id, found, _⟩ := Relation.TransGen.tail'_iff.mp cycle
    obtain ⟨id', found', path⟩ := dependsOn_of_below cycle found
    rw [found, Option.some.injEq] at found'
    exact acyclic id (found' ▸ path)

/-! ## The reported hops -/

/-- Each hop waits for the key that the next one provides. -/
structure Trail (g : Graph) (path : List CycleStep) : Prop where
  once : (path.map (·.provides)).Nodup
  providers : ∀ step ∈ path, g.providerOf step.provides = some step.node
  waits : path.IsChain fun step next => next.provides ∈ g.dependenciesOf step.node

/-- The hops go round: the last one provides the key of the first one again, and no other key is
provided twice. -/
structure Closes (g : Graph) (chain : List CycleStep) : Prop where
  length : 2 ≤ chain.length
  ends : chain.head?.map (·.provides) = chain.getLast?.map (·.provides)
  once : (chain.dropLast.map (·.provides)).Nodup
  providers : ∀ step ∈ chain, g.providerOf step.provides = some step.node
  waits : chain.IsChain fun step next => next.provides ∈ g.dependenciesOf step.node

theorem Trail.nil : g.Trail [] := ⟨List.nodup_nil, by simp, .nil⟩

variable {path : List CycleStep} {k : Key} {id : NodeId}

/-- The last hop waits for the key. -/
def Leads (g : Graph) (path : List CycleStep) (k : Key) : Prop :=
  ∀ step ∈ path.getLast?, k ∈ g.dependenciesOf step.node

theorem Trail.concat (trail : g.Trail path) (leads : g.Leads path k)
    (found : g.providerOf k = some id) (new : k ∉ path.map (·.provides)) :
    g.Trail (path ++ [g.stepTo id k]) where
  once := by
    rw [List.map_append, List.nodup_append_comm]
    exact List.nodup_cons.mpr ⟨new, trail.once⟩
  providers := List.forall_mem_append.mpr ⟨trail.providers, List.forall_mem_singleton.mpr found⟩
  waits := by
    refine List.isChain_append.mpr ⟨trail.waits, .singleton _, fun step last next first => ?_⟩
    cases first
    exact leads step last

theorem Trail.pathFrom (trail : g.Trail path) : g.Trail (pathFrom path k) := by
  have suffix := List.dropWhile_suffix (l := path) fun step => decide (step.provides ≠ k)
  exact ⟨trail.once.sublist (suffix.sublist.map _), fun step mem =>
    trail.providers step (suffix.subset mem), trail.waits.suffix suffix⟩

/-- A key that is provided on the path and waited for at its end closes a cycle. -/
theorem Trail.closes (trail : g.Trail path) (leads : g.Leads path k)
    (found : g.providerOf k = some id) (met : k ∈ path.map (·.provides)) :
    g.Closes (Graph.pathFrom path k ++ [g.stepTo id k]) := by
  obtain ⟨step, mem, same⟩ := List.mem_map.mp met
  have rest := trail.pathFrom (k := k)
  have suffix := List.dropWhile_suffix (l := path) fun step => decide (step.provides ≠ k)
  cases cut : Graph.pathFrom path k with
  | nil =>
    have all := List.dropWhile_eq_nil_iff.mp cut step mem
    rw [decide_eq_true_eq] at all
    exact absurd same all
  | cons first hops =>
    have here : first.provides = k := by
      have head := List.head?_dropWhile_not (fun step => decide (step.provides ≠ k)) path
      rw [show path.dropWhile _ = _ from cut] at head
      simpa using head
    rw [cut] at rest
    rw [show path.dropWhile _ = _ from cut] at suffix
    have last : (first :: hops).getLast? = path.getLast? := by
      obtain ⟨before, rfl⟩ := suffix
      rw [List.getLast?_append_of_ne_nil _ (List.cons_ne_nil first hops)]
    constructor
    case length => simp
    case ends => rw [List.getLast?_concat]; simp [here, stepTo]
    case once => rw [List.dropLast_concat]; exact rest.once
    case providers =>
      exact List.forall_mem_append.mpr ⟨rest.providers, List.forall_mem_singleton.mpr found⟩
    case waits =>
      refine List.isChain_append.mpr ⟨rest.waits, .singleton _, fun step placed next head => ?_⟩
      cases head
      exact leads step (last ▸ placed)

theorem search_closes {explored keys : List Key} {cycle : Cycle}
    (h : g.search path explored keys = .error cycle) (trail : g.Trail path)
    (leads : ∀ k ∈ keys, g.Leads path k) : g.Closes cycle.chain := by
  fun_induction search g path explored keys with
  | case1 => cases h
  | case2 path explored k ks noIssues ih => exact ih h trail (List.forall_mem_cons.mp leads).2
  | case3 path explored k ks id found met =>
    cases h
    exact trail.closes (leads k (List.mem_cons_self ..)) found met
  | case4 path explored k ks id found new known ih =>
    exact ih h trail (List.forall_mem_cons.mp leads).2
  | case5 path explored k ks id found new unknown cycle₁ inner ih =>
    cases h
    refine ih inner (trail.concat (leads k (List.mem_cons_self ..)) found new) fun k' waits => ?_
    intro step last
    rw [List.getLast?_concat] at last
    cases last
    exact waits
  | case6 path explored k ks id found new unknown explored₁ inner ih₁ ih₂ =>
    exact ih₂ h trail (List.forall_mem_cons.mp leads).2

theorem findCycle_closes {cycle : Cycle} (found : g.findCycle = some cycle) :
    g.Closes cycle.chain := by
  unfold findCycle at found
  split at found
  · cases found
  · rename_i failed
    cases found
    exact search_closes failed .nil fun k _ step noIssues => by cases noIssues

end Graph

namespace Spec

variable {s : Spec} {d : Draft}

/-- Whatever else is wrong with a description, its cycle is the last issue. -/
theorem compile_of_cycle (drafted : s.draft = .ok d) {cycle : Cycle}
    (found : d.graph.findCycle = some cycle) :
    s.compile = .error (.issues (d.issues ++ d.graph.coverageIssues ++ [cycle.issue])) := by
  have all : d.allIssues = d.issues ++ d.graph.coverageIssues ++ [cycle.issue] := by
    rw [Draft.allIssues, found]
    rfl
  simp only [compile, drafted]
  split
  · rename_i noIssues
    rw [noIssues] at all
    simp at all
  · rw [all]

/-- The search finds a cycle just where a node reaches itself, whatever it is wanted for. The hops
that it reports close, and compiling ends with them as the last issue and the only one of a
cycle. -/
theorem cycles_are_found (s : Spec) (d : Draft) (drafted : s.draft = .ok d) :
    (d.graph.findCycle = none ↔ ∀ id, ¬ Relation.TransGen d.graph.DependsOn id id) ∧
      ∀ cycle, d.graph.findCycle = some cycle →
        cycle.issue.diagnostic.kind = .cycle cycle.chain ∧ d.graph.Closes cycle.chain ∧
          ∃ earlier, s.compile = .error (.issues (earlier ++ [cycle.issue])) ∧
            ∀ i ∈ earlier, i.IsLocal := by
  refine ⟨(Graph.findCycle_eq_none_iff d.graph).trans (Graph.below_acyclic_iff d.graph), ?_⟩
  intro cycle found
  refine ⟨rfl, Graph.findCycle_closes found, _, compile_of_cycle drafted found, ?_⟩
  exact List.forall_mem_append.mpr ⟨(draft_kept drafted).issues, d.graph.coverageIssues_isLocal⟩

/-- A task that copies its only input, and two that wait for each other and are not asked for. -/
def loopedSpec : Spec where
  name := "looped"
  location := ⟨"flow", 1, 1⟩
  inputs := [⟨.named "in", ⟨"flow", 2, 1⟩⟩]
  outputs := [⟨.named "out", ⟨"flow", 3, 1⟩⟩]
  tasks := [
    { location := ⟨"flow", 4, 1⟩, signature := ⟨[.named "in"], [.named "out"], false⟩ },
    { location := ⟨"flow", 5, 1⟩, signature := ⟨[.named "right"], [.named "left"], false⟩ },
    { location := ⟨"flow", 6, 1⟩, signature := ⟨[.named "left"], [.named "right"], false⟩ }]

theorem cycles_are_found_looped :
    loopedSpec.draft = .ok ⟨loopedSpec.graph, []⟩ ∧
      ∃ cycle, loopedSpec.graph.findCycle = some cycle ∧ loopedSpec.graph.Closes cycle.chain := by
  have drafted : loopedSpec.draft = .ok ⟨loopedSpec.graph, []⟩ := rfl
  have left : 2 ∈ loopedSpec.graph.dependencyNodes 1 := by decide
  have right : 1 ∈ loopedSpec.graph.dependencyNodes 2 := by decide
  obtain ⟨none_iff, reported⟩ := cycles_are_found loopedSpec _ drafted
  refine ⟨drafted, ?_⟩
  cases found : loopedSpec.graph.findCycle with
  | none => exact absurd (.tail (.single left) right) (none_iff.mp found 1)
  | some cycle => exact ⟨cycle, rfl, (reported cycle found).2.1⟩

end Spec

end KeyFlow
