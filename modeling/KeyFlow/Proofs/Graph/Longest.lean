import KeyFlow.Proofs.Graph.Clean
import KeyFlow.Proofs.Graph.Table

/-!
The schedule of a graph puts each node that is reached as far from the last level as it is from the
roots on its longest path, so that what it waits for stands before it and no level could be saved.
-/

namespace KeyFlow

/-- The level with this number holds the node. -/
def Schedule.Holds (s : Schedule) (i : Nat) (id : NodeId) : Prop :=
  ∃ level, s.levels[i]? = some level ∧ id ∈ level

/-- The levels are those of the longest paths. -/
structure Schedule.Longest (s : Schedule) (g : Graph) : Prop where
  placed : ∀ id, g.Reached id → ∃ d top, g.IsDistance id d ∧ g.IsDeepest top ∧ d ≤ top ∧
    ∀ i, s.Holds i id ↔ i = top - d
  inhabited : ∀ level ∈ s.levels, level ≠ []
  earlier : ∀ i id dependency, s.Holds i id → dependency ∈ g.dependencyNodes id →
    ∃ j < i, s.Holds j dependency
  fewest : ∀ (n : Nat) (level : NodeId → Nat), (∀ id, g.Reached id → level id < n) →
    (∀ id dependency, g.Reached id → dependency ∈ g.dependencyNodes id →
      level dependency < level id) → s.levels.length ≤ n
  increasing : ∀ level ∈ s.levels, level.Pairwise (· < ·)

namespace Graph

variable {g : Graph} (inRange : g.InRange) (acyclic : ∀ id, ¬ Relation.TransGen g.DependsOn id id)

include inRange acyclic

theorem holds_iff {i : Nat} {id : NodeId} :
    g.schedule.Holds i id ↔ ∃ d, g.IsDistance id d ∧ g.IsDeepest (i + d) := by
  constructor
  · rintro ⟨level, stands, mem⟩
    exact (mem_level_iff inRange acyclic stands).mp mem
  · rintro ⟨d, distance, deepest⟩
    have length := (isDeepest_iff inRange acyclic).mp deepest
    have lt : i < g.schedule.levels.length := by
      rw [length_levels]
      omega
    have stands := List.getElem?_eq_getElem lt
    exact ⟨_, stands, (mem_level_iff inRange acyclic stands).mpr ⟨d, distance, deepest⟩⟩

/-- On a longest path every distance up to its own length is met. -/
theorem exists_isDistance_le {id : NodeId} {d e : Nat} (distance : g.IsDistance id d)
    (le : e ≤ d) : ∃ a, g.IsDistance a e := by
  induction d generalizing id with
  | zero =>
    rw [Nat.le_zero.mp le]
    exact ⟨id, distance⟩
  | succ d ih =>
    rcases Nat.le_succ_iff.mp le with before | rfl
    · obtain ⟨a, above, depends⟩ := distance.1.dependent
      obtain ⟨d', distance'⟩ := exists_isDistance inRange acyclic (reached_iff.mpr ⟨d, above⟩)
      have ge := distance'.2 above
      have deeper := distance.2 (distance'.1.dependency depends)
      rw [Nat.le_antisymm (Nat.le_of_succ_le_succ deeper) ge] at distance'
      exact ih distance' before
    · exact ⟨id, distance⟩

theorem schedule_longest : g.schedule.Longest g where
  placed := by
    intro id reached
    obtain ⟨d, distance⟩ := exists_isDistance inRange acyclic reached
    have lt := lt_of_isDistance inRange acyclic distance
    have deepest : g.IsDeepest (g.allSweeps.length - 1) :=
      (isDeepest_iff inRange acyclic).mpr (by omega)
    refine ⟨d, _, distance, deepest, by omega, fun i => ?_⟩
    rw [holds_iff inRange acyclic]
    constructor
    · rintro ⟨d', distance', deepest'⟩
      have same := distance.unique distance'
      have top := deepest.unique deepest'
      omega
    · rintro rfl
      refine ⟨d, distance, ?_⟩
      rwa [Nat.sub_add_cancel (by omega)]
  inhabited := by
    intro level mem
    obtain ⟨i, stands⟩ := List.mem_iff_getElem?.mp mem
    have lt := (List.getElem?_eq_some_iff.mp stands).1
    rw [length_levels] at lt
    have deepest : g.IsDeepest (g.allSweeps.length - 1) :=
      (isDeepest_iff inRange acyclic).mpr (by omega)
    obtain ⟨last, longest⟩ := deepest.1
    obtain ⟨id, distance⟩ := exists_isDistance_le inRange acyclic longest
      (show g.allSweeps.length - 1 - i ≤ g.allSweeps.length - 1 by omega)
    refine List.ne_nil_of_mem ((mem_level_iff inRange acyclic stands).mpr ⟨_, distance, ?_⟩)
    rwa [show i + (g.allSweeps.length - 1 - i) = g.allSweeps.length - 1 by omega]
  earlier := by
    intro i id dependency holds depends
    obtain ⟨d, distance, deepest⟩ := (holds_iff inRange acyclic).mp holds
    have deeper := distance.1.dependency depends
    obtain ⟨d', distance'⟩ :=
      exists_isDistance inRange acyclic (reached_iff.mpr ⟨_, deeper⟩)
    have lt := distance'.2 deeper
    have le := deepest.2 ⟨dependency, distance'⟩
    refine ⟨i + d - d', by omega, (holds_iff inRange acyclic).mpr ⟨d', distance', ?_⟩⟩
    rwa [Nat.sub_add_cancel le]
  fewest := fun _ _ few earlier => length_levels_le few earlier
  increasing := fun _ => pairwise_level

end Graph

namespace Spec

/-- The levels of a description's graph. Writing them down meets no fault and lists what is reached
once and nothing else, with cycles or without; without them they are the levels of the longest
paths. -/
theorem schedule_is_longest (s : Spec) (d : Draft) (drafted : s.draft = .ok d) :
    d.graph.tabulate = .ok d.graph.schedule ∧ d.graph.schedule.nodes.Nodup ∧
      (∀ id, id ∈ d.graph.schedule.nodes ↔ d.graph.Reached id) ∧
      ((∀ id, ¬ Relation.TransGen d.graph.DependsOn id id) →
        d.graph.schedule.Longest d.graph) := by
  have inRange := (draft_kept drafted).inRange
  exact ⟨Graph.tabulate_eq inRange, Graph.schedule_nodes_nodup d.graph,
    fun id => Graph.mem_schedule_iff inRange, Graph.schedule_longest inRange⟩

/-- The task that is declared last runs first, for the other two wait for it; it is a root as
well. -/
def chainedSpec : Spec where
  name := "chained"
  location := ⟨"flow", 1, 1⟩
  inputs := [⟨.named "in", ⟨"flow", 2, 1⟩⟩]
  outputs := [⟨.named "first", ⟨"flow", 3, 1⟩⟩, ⟨.named "last", ⟨"flow", 4, 1⟩⟩]
  tasks := [
    { location := ⟨"flow", 5, 1⟩
      signature := ⟨[.named "first", .named "next"], [.named "last"], false⟩ },
    { location := ⟨"flow", 6, 1⟩, signature := ⟨[.named "first"], [.named "next"], false⟩ },
    { location := ⟨"flow", 7, 1⟩, signature := ⟨[.named "in"], [.named "first"], false⟩ }]

theorem chainedSpec_acyclic (id : NodeId) :
    ¬ Relation.TransGen chainedSpec.graph.DependsOn id id := by
  have rises : ∀ a < 3, ∀ b ∈ chainedSpec.graph.dependencyNodes a, a < b := by decide
  have path {a b : NodeId} (path : Relation.TransGen chainedSpec.graph.DependsOn a b) : a < b := by
    induction path with
    | single depends => exact rises _ depends.inRange _ depends
    | tail _ depends ih => exact ih.trans (rises _ depends.inRange _ depends)
  exact fun cycle => Nat.lt_irrefl id (path cycle)

theorem schedule_is_longest_chained :
    chainedSpec.draft = .ok ⟨chainedSpec.graph, []⟩ ∧
      (∀ id, ¬ Relation.TransGen chainedSpec.graph.DependsOn id id) ∧
      chainedSpec.graph.schedule.levels = [[2], [1], [0]] ∧
      chainedSpec.graph.schedule.Longest chainedSpec.graph := by
  have drafted : chainedSpec.draft = .ok ⟨chainedSpec.graph, []⟩ := rfl
  exact ⟨drafted, chainedSpec_acyclic, by decide,
    (schedule_is_longest chainedSpec _ drafted).2.2.2 chainedSpec_acyclic⟩

end Spec

end KeyFlow
