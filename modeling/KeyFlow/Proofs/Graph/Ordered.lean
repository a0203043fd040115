import Mathlib.Data.List.Nodup
import KeyFlow.Graph.Order
import KeyFlow.Proofs.Graph.Search

/-!
The depth-first order of a graph without cycles lists each node once, behind all that it depends
on. While the walk goes on, a node that was met and is not done stands on the stack with the rest of
its dependencies above it.
-/

namespace KeyFlow

theorem mem_distinct {α : Type} [DecidableEq α] {xs : List α} {x : α} :
    x ∈ distinct xs ↔ x ∈ xs := by
  have general (seen : List α) :
      x ∈ xs.foldl (fun seen x => if x ∈ seen then seen else seen ++ [x]) seen ↔
        x ∈ seen ∨ x ∈ xs := by
    induction xs generalizing seen with
    | nil => simp
    | cons a xs ih =>
      rw [List.foldl_cons, ih, List.mem_cons]
      split
      · rename_i known
        refine ⟨Or.imp_right .inr, ?_⟩
        rintro (h | rfl | h)
        · exact .inl h
        · exact .inl known
        · exact .inr h
      · rw [List.mem_append, List.mem_singleton, or_assoc]
  rw [distinct, general]
  exact or_iff_right List.not_mem_nil

namespace Graph

variable {g : Graph}

/-- The left node waits for the right one. -/
def DependsOn (g : Graph) (a b : NodeId) : Prop := b ∈ g.dependencyNodes a

theorem mem_dependencyNodes {id id' : NodeId} :
    id' ∈ g.dependencyNodes id ↔ ∃ k ∈ g.dependenciesOf id, g.providerOf k = some id' := by
  rw [dependencyNodes, mem_distinct, List.mem_filterMap]

/-- The nodes that a run comes to from the roots. -/
inductive Reached (g : Graph) : NodeId → Prop where
  | root {id : NodeId} (mem : id ∈ g.roots) : Reached g id
  | dependency {id id' : NodeId} (reached : Reached g id) (mem : id' ∈ g.dependencyNodes id) :
    Reached g id'

/-- Nodes depend on nodes, and never on themselves. -/
structure Grounded (g : Graph) : Prop where
  inRange : ∀ a b, g.DependsOn a b → b < g.nodes.length
  acyclic : ∀ a, ¬ Relation.TransGen g.DependsOn a a

/-- The dependencies of each node stand before it. -/
def Sorted (g : Graph) (ids : List NodeId) : Prop :=
  ∀ before id after, ids = before ++ id :: after → ∀ d ∈ g.dependencyNodes id, d ∈ before

theorem Sorted.concat {ids : List NodeId} {id : NodeId} (sorted : g.Sorted ids)
    (ready : ∀ d ∈ g.dependencyNodes id, d ∈ ids) : g.Sorted (ids ++ [id]) := by
  intro before x after split
  rw [List.append_eq_append_iff] at split
  rcases split with ⟨more, rfl, last⟩ | ⟨rest, rfl, last⟩
  · cases more with
    | nil =>
      cases last
      rwa [List.append_nil]
    | cons y more => simp at last
  · cases rest with
    | nil =>
      cases last
      rwa [List.append_nil] at ready
    | cons y rest =>
      cases last
      exact sorted before x rest rfl

theorem Sorted.at {ids : List NodeId} {id d : NodeId} (sorted : g.Sorted ids) {j : Nat}
    (placed : ids[j]? = some id) (dependency : d ∈ g.dependencyNodes id) :
    d ∈ ids ∧ ids.idxOf d < j := by
  obtain ⟨inRange, rfl⟩ := List.getElem?_eq_some_iff.mp placed
  have split : ids = ids.take j ++ ids[j] :: ids.drop (j + 1) := by
    rw [List.getElem_cons_drop, List.take_append_drop]
  have before := sorted _ _ _ split d dependency
  have mem := List.mem_of_mem_take before
  exact ⟨mem, (List.mem_take_iff_idxOf_lt mem).mp before⟩

/-- Nodes can be left out together with all that depend on them. -/
theorem Sorted.filter {ids : List NodeId} (sorted : g.Sorted ids) {p : NodeId → Bool}
    (closed : ∀ a b, p a = true → g.DependsOn a b → p b = true) : g.Sorted (ids.filter p) := by
  intro before id after split d dependency
  obtain ⟨above, below, rfl, rfl, back⟩ := List.filter_eq_append_iff.mp split
  obtain ⟨skipped, rest, rfl, dropped, kept, _⟩ := List.filter_eq_cons_iff.mp back
  have wanted := closed id d kept dependency
  have mem := sorted (above ++ skipped) id rest (List.append_assoc ..).symm d dependency
  refine List.mem_filter.mpr ⟨(List.mem_append.mp mem).resolve_right fun out => ?_, wanted⟩
  exact dropped d out wanted

/-- A node that is not in the front of a list is its next node, or stands behind that one. -/
theorem split_behind {front back above below : List NodeId} {id x : NodeId}
    (split : front ++ id :: back = above ++ x :: below) (notFront : x ∉ front) :
    (x = id ∧ above = front) ∨ ∃ more, above = front ++ id :: more ∧ back = more ++ x :: below := by
  induction front generalizing above with
  | nil =>
    cases above with
    | nil =>
      cases split
      exact .inl ⟨rfl, rfl⟩
    | cons y above =>
      cases split
      exact .inr ⟨above, rfl, rfl⟩
  | cons y front ih =>
    cases above with
    | nil =>
      cases split
      exact absurd (List.mem_cons_self ..) notFront
    | cons z above =>
      obtain ⟨rfl, split'⟩ := List.cons.inj split
      rcases ih split' fun mem => notFront (List.mem_cons_of_mem _ mem) with
        ⟨rfl, rfl⟩ | ⟨more, rfl, rfl⟩
      · exact .inl ⟨rfl, rfl⟩
      · exact .inr ⟨more, rfl, rfl⟩

/-- What holds in the middle of a walk. -/
structure Walking (g : Graph) (stack met done : List NodeId) : Prop where
  stacked : ∀ x ∈ stack, x < g.nodes.length
  known : ∀ x ∈ met, x < g.nodes.length
  once : done.Nodup
  within : ∀ x ∈ done, x ∈ met
  pending : ∀ x ∈ met, x ∈ done ∨ x ∈ stack
  sorted : g.Sorted done
  /-- What is left of a node's dependencies stands above it, and nothing else does. -/
  above : ∀ above x below, stack = above ++ x :: below → x ∈ met → x ∉ done → x ∉ above →
    (∀ d ∈ g.dependencyNodes x, d ∈ done ∨ d ∈ above) ∧
      ∀ y ∈ above, Relation.TransGen g.DependsOn x y

namespace Walking

variable {stack met done : List NodeId} {id : NodeId}

theorem start : g.Walking [] [] [] where
  stacked := by simp
  known := by simp
  once := List.nodup_nil
  within := by simp
  pending := by simp
  sorted := by
    intro before id after split
    simp at split
  above := by simp

/-- The node on top is done already. -/
theorem drop (w : g.Walking (id :: stack) met done) (finished : id ∈ done) :
    g.Walking stack met done where
  stacked := fun x mem => w.stacked x (List.mem_cons_of_mem _ mem)
  known := w.known
  once := w.once
  within := w.within
  pending := by
    intro x mem
    rcases w.pending x mem with done | here
    · exact .inl done
    · rcases List.mem_cons.mp here with rfl | later
      · exact .inl finished
      · exact .inr later
  sorted := w.sorted
  above := by
    rintro above x below rfl mem undone first
    have ne : x ≠ id := fun same => undone (same ▸ finished)
    obtain ⟨left, under⟩ := w.above (id :: above) x below rfl mem undone
      (List.not_mem_cons_of_ne_of_not_mem ne first)
    refine ⟨fun d dependency => ?_, fun y mem => under y (List.mem_cons_of_mem _ mem)⟩
    rcases left d dependency with done | here
    · exact .inl done
    · rcases List.mem_cons.mp here with rfl | later
      · exact .inl finished
      · exact .inr later

/-- The node on top was met before and has nothing above it, so it is done now. -/
theorem finish (w : g.Walking (id :: stack) met done) (mem : id ∈ met) (undone : id ∉ done) :
    g.Walking stack met (done ++ [id]) := by
  have ready : ∀ d ∈ g.dependencyNodes id, d ∈ done := by
    intro d dependency
    rcases (w.above [] id stack rfl mem undone List.not_mem_nil).1 d dependency with done | no
    · exact done
    · cases no
  have w' : g.Walking (id :: stack) met (done ++ [id]) := by
    refine ⟨w.stacked, w.known, ?_, ?_, ?_, w.sorted.concat ready, ?_⟩
    · rw [List.nodup_append_comm]
      exact List.nodup_cons.mpr ⟨undone, w.once⟩
    · intro x later
      rcases List.mem_append.mp later with before | last
      · exact w.within x before
      · rw [List.mem_singleton.mp last]
        exact mem
    · intro x known
      exact (w.pending x known).imp_left (List.mem_append_left _)
    · intro above x below split known unvisited first
      obtain ⟨left, under⟩ := w.above above x below split known
        (fun before => unvisited (List.mem_append_left _ before)) first
      exact ⟨fun d dependency => (left d dependency).imp_left (List.mem_append_left _), under⟩
  exact w'.drop (List.mem_append_right _ (List.mem_singleton_self id))

/-- A node further down that was met and is not done depends on the one on top. -/
theorem depends (w : g.Walking (id :: stack) met done) {x : NodeId} (known : x ∈ met)
    (undone : x ∉ done) (ne : x ≠ id) : Relation.TransGen g.DependsOn x id := by
  have here := (w.pending x known).resolve_left undone
  obtain ⟨front, back, rfl, first⟩ :=
    List.eq_append_cons_of_mem ((List.mem_cons.mp here).resolve_left ne)
  have under := (w.above (id :: front) x back rfl known undone
    (List.not_mem_cons_of_ne_of_not_mem ne first)).2
  exact under id (List.mem_cons_self ..)

/-- A dependency that was met and is not done would be the node itself, or further down and depend
on the node. -/
theorem open_dependency (grounded : g.Grounded) (w : g.Walking (id :: stack) met done)
    (d : NodeId) (dependency : d ∈ g.dependencyNodes id) :
    d ∈ done ∨ d ∈ (g.dependencyNodes id).filter (· ∉ id :: met) := by
  by_cases finished : d ∈ done
  · exact .inl finished
  refine .inr (List.mem_filter.mpr ⟨dependency, ?_⟩)
  rw [decide_eq_true_eq]
  intro known
  have ne : d ≠ id := by
    rintro rfl
    exact grounded.acyclic d (.single dependency)
  have before := (List.mem_cons.mp known).resolve_left ne
  exact grounded.acyclic d (.tail (w.depends before finished ne) dependency)

/-- A node is met for the first time, and what it waits for is put on top of it. -/
theorem enter (grounded : g.Grounded) (w : g.Walking (id :: stack) met done) (new : id ∉ met) :
    g.Walking ((g.dependencyNodes id).filter (· ∉ id :: met) ++ id :: stack) (id :: met) done := by
  have fresh {x : NodeId} (mem : x ∈ (g.dependencyNodes id).filter (· ∉ id :: met)) :
      g.DependsOn id x ∧ x ∉ id :: met := by
    obtain ⟨dependency, unmet⟩ := List.mem_filter.mp mem
    exact ⟨dependency, by simpa using unmet⟩
  refine ⟨?_, ?_, w.once, ?_, ?_, w.sorted, ?_⟩
  · intro x mem
    rcases List.mem_append.mp mem with pushed | before
    · exact grounded.inRange id x (fresh pushed).1
    · exact w.stacked x before
  · intro x mem
    rcases List.mem_cons.mp mem with rfl | before
    · exact w.stacked x (List.mem_cons_self ..)
    · exact w.known x before
  · intro x mem
    exact List.mem_cons_of_mem _ (w.within x mem)
  · intro x mem
    rcases List.mem_cons.mp mem with rfl | before
    · exact .inr (List.mem_append_right _ (List.mem_cons_self ..))
    · exact (w.pending x before).imp_right (List.mem_append_right _)
  · intro above x below split known unvisited first
    rcases split_behind split fun pushed => (fresh pushed).2 known with
      ⟨rfl, rfl⟩ | ⟨more, rfl, rfl⟩
    · exact ⟨w.open_dependency grounded, fun y mem => .single (fresh mem).1⟩
    · have ne : x ≠ id := by
        rintro rfl
        exact first (List.mem_append_right _ (List.mem_cons_self ..))
      obtain ⟨left, under⟩ := w.above (id :: more) x below rfl
        ((List.mem_cons.mp known).resolve_left ne) unvisited
        (fun mem => first (List.mem_append_right _ mem))
      refine ⟨fun d dependency => (left d dependency).imp_right (List.mem_append_right _), ?_⟩
      intro y mem
      rcases List.mem_append.mp mem with pushed | before
      · exact .tail (under id (List.mem_cons_self ..)) (fresh pushed).1
      · exact under y before

end Walking

theorem walk_walking (grounded : g.Grounded) {stack met done : List NodeId}
    (w : g.Walking stack met done) :
    g.Walking [] (g.walk stack met done).1 (g.walk stack met done).2 ∧
      ∀ x ∈ met ++ stack, x ∈ (g.walk stack met done).1 := by
  fun_induction walk g stack met done with
  | case1 met done => exact ⟨w, by simp⟩
  | case2 met done id stack known ih =>
    have mem : id ∈ met :=
      known.resolve_right (Nat.not_le_of_lt (w.stacked id (List.mem_cons_self ..)))
    have w' : g.Walking stack met (if id ∈ done then done else done ++ [id]) := by
      split
      · rename_i finished
        exact w.drop finished
      · rename_i undone
        exact w.finish mem undone
    obtain ⟨walked, reached⟩ := ih w'
    refine ⟨walked, fun x here => reached x ?_⟩
    rw [List.mem_append, List.mem_cons] at here
    rw [List.mem_append]
    rcases here with before | rfl | later
    · exact .inl before
    · exact .inl mem
    · exact .inr later
  | case3 met done id stack new ih =>
    obtain ⟨walked, reached⟩ := ih (w.enter grounded (not_or.mp new).1)
    refine ⟨walked, fun x here => reached x ?_⟩
    simp only [List.mem_append, List.mem_cons] at here ⊢
    tauto

/-- Walks that start one after another leave nothing open. -/
theorem foldl_walk (grounded : g.Grounded) (starts : List NodeId) {met done : List NodeId}
    (inRange : ∀ x ∈ starts, x < g.nodes.length) (w : g.Walking [] met done) :
    let after := starts.foldl (fun (met, done) start => g.walk [start] met done) (met, done)
    g.Walking [] after.1 after.2 ∧ ∀ x ∈ met ++ starts, x ∈ after.1 := by
  induction starts generalizing met done with
  | nil => exact ⟨w, by simp⟩
  | cons start starts ih =>
    obtain ⟨here, later⟩ := List.forall_mem_cons.mp inRange
    have closed {x : NodeId} (mem : x ∈ met) : x ∈ done :=
      (w.pending x mem).resolve_right List.not_mem_nil
    have opened : g.Walking [start] met done := by
      refine ⟨by simpa using here, w.known, w.once, w.within, ?_, w.sorted, ?_⟩
      · exact fun x mem => .inl (closed mem)
      · exact fun above x below _ mem undone _ => absurd (closed mem) undone
    obtain ⟨walked, reached⟩ := walk_walking grounded opened
    obtain ⟨after, all⟩ := ih later walked
    refine ⟨after, fun x mem => all x ?_⟩
    rw [List.mem_append, List.mem_cons] at mem
    rw [List.mem_append]
    rcases mem with before | rfl | rest
    · exact .inl (reached x (List.mem_append_left _ before))
    · exact .inl (reached x (List.mem_append_right _ (List.mem_singleton_self x)))
    · exact .inr rest

theorem order_walked (grounded : g.Grounded) :
    ∃ met, g.Walking [] met g.order ∧ ∀ x < g.nodes.length, x ∈ met := by
  obtain ⟨walked, reached⟩ := foldl_walk grounded (List.range g.nodes.length)
    (fun x mem => List.mem_range.mp mem) .start
  exact ⟨_, walked, fun x lt => reached x (List.mem_append_right _ (List.mem_range.mpr lt))⟩

theorem Grounded.order_nodup (grounded : g.Grounded) : g.order.Nodup := by
  obtain ⟨met, walked, _⟩ := order_walked grounded
  exact walked.once

theorem Grounded.order_sorted (grounded : g.Grounded) : g.Sorted g.order := by
  obtain ⟨met, walked, _⟩ := order_walked grounded
  exact walked.sorted

theorem Grounded.mem_order (grounded : g.Grounded) {id : NodeId} :
    id ∈ g.order ↔ id < g.nodes.length := by
  obtain ⟨met, walked, reached⟩ := order_walked grounded
  constructor
  · intro mem
    exact walked.known id (walked.within id mem)
  · intro lt
    exact (walked.pending id (reached id lt)).resolve_right List.not_mem_nil

end Graph

end KeyFlow
