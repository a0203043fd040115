import Mathlib.Data.List.Perm.Subperm
import Mathlib.Data.Nat.Find
import Mathlib.Order.Bounds.Basic
import KeyFlow.Graph.Levels
import KeyFlow.Proofs.Graph.InRange
import KeyFlow.Proofs.Graph.Ordered

/-!
The levels of a graph by the lengths of its dependency paths. A sweep holds the nodes at the end of
a path of its length from a root. In a graph without cycles no path is longer than the sweeps are
many, so the last sweep of a node is its distance, the length of the longest path to it; in any
graph the shortest path to a node is no longer than that, so that none is missed.
-/

namespace KeyFlow

namespace Graph

variable {g : Graph} {a b c id : NodeId} {k d i : Nat}

/-! ## Paths -/

/-- Only nodes wait for anything. -/
theorem DependsOn.inRange {a b : NodeId} (depends : g.DependsOn a b) : a < g.nodes.length := by
  obtain ⟨k, dependency, _⟩ := mem_dependencyNodes.mp depends
  rw [dependenciesOf] at dependency
  split at dependency
  · rename_i n placed
    exact (List.getElem?_eq_some_iff.mp placed).1
  · cases dependency

/-- A dependency path of this length. -/
inductive Path (g : Graph) : Nat → NodeId → NodeId → Prop where
  | nil (a : NodeId) : Path g 0 a a
  | cons {k : Nat} {a b c : NodeId} (depends : g.DependsOn a b) (rest : Path g k b c) :
    Path g (k + 1) a c

theorem Path.concat (path : g.Path k a b) (depends : g.DependsOn b c) : g.Path (k + 1) a c := by
  induction path with
  | nil a => exact .cons depends (.nil c)
  | cons first _ ih => exact .cons first (ih depends)

theorem Path.split_last (path : g.Path (k + 1) a c) : ∃ b, g.Path k a b ∧ g.DependsOn b c := by
  induction k generalizing a with
  | zero =>
    cases path with
    | cons depends rest =>
      cases rest
      exact ⟨a, .nil a, depends⟩
  | succ k ih =>
    cases path with
    | cons depends rest =>
      obtain ⟨b, before, last⟩ := ih rest
      exact ⟨b, .cons depends before, last⟩

/-- What falls along dependencies falls at least by the length of a path. -/
theorem Path.add_le {P : NodeId → Prop} {rank : NodeId → Nat}
    (closed : ∀ a b, P a → g.DependsOn a b → P b)
    (falls : ∀ a b, P a → g.DependsOn a b → rank b < rank a) (path : g.Path k a b) (start : P a) :
    rank b + k ≤ rank a := by
  induction path with
  | nil a => exact Nat.le_refl _
  | cons depends _ ih =>
    have below := ih (closed _ _ start depends)
    have lt := falls _ _ start depends
    omega

/-- The node stands at the end of a path of this length from a root. -/
def AtDepth (g : Graph) (k : Nat) (id : NodeId) : Prop := ∃ root ∈ g.roots, g.Path k root id

theorem AtDepth.dependency (deep : g.AtDepth k a) (depends : g.DependsOn a b) :
    g.AtDepth (k + 1) b := by
  obtain ⟨root, isRoot, path⟩ := deep
  exact ⟨root, isRoot, path.concat depends⟩

theorem AtDepth.dependent (deep : g.AtDepth (k + 1) b) : ∃ a, g.AtDepth k a ∧ g.DependsOn a b := by
  obtain ⟨root, isRoot, path⟩ := deep
  obtain ⟨a, before, last⟩ := path.split_last
  exact ⟨a, ⟨root, isRoot, before⟩, last⟩

theorem reached_iff : g.Reached id ↔ ∃ k, g.AtDepth k id := by
  constructor
  · intro reached
    induction reached with
    | root mem => exact ⟨0, _, mem, .nil _⟩
    | dependency _ mem ih =>
      obtain ⟨k, deep⟩ := ih
      exact ⟨k + 1, deep.dependency mem⟩
  · rintro ⟨k, deep⟩
    induction k generalizing id with
    | zero =>
      obtain ⟨root, isRoot, path⟩ := deep
      cases path
      exact .root isRoot
    | succ k ih =>
      obtain ⟨a, before, last⟩ := deep.dependent
      exact .dependency (ih before) last

/-- The length of the longest path from a root to the node. -/
def IsDistance (g : Graph) (id : NodeId) (d : Nat) : Prop := IsGreatest {k | g.AtDepth k id} d

/-- The largest distance of all. -/
def IsDeepest (g : Graph) (top : Nat) : Prop := IsGreatest {d | ∃ id, g.IsDistance id d} top

/-! ## The shortest path to a node -/

theorem InRange.dependsOn (inRange : g.InRange) (depends : g.DependsOn a b) :
    b < g.nodes.length := by
  obtain ⟨_, _, found⟩ := mem_dependencyNodes.mp depends
  exact inRange.providerOf found

theorem InRange.roots (inRange : g.InRange) : ∀ root ∈ g.roots, root < g.nodes.length := by
  intro root mem
  rcases List.mem_append.mp (mem_distinct.mp mem) with output | invoked
  · obtain ⟨_, _, found⟩ := List.mem_filterMap.mp output
    exact inRange.providerOf found
  · obtain ⟨t, task, rfl⟩ := List.mem_map.mp invoked
    exact inRange.tasks t (List.mem_of_mem_filter task)

theorem InRange.reached (inRange : g.InRange) (reached : g.Reached id) : id < g.nodes.length := by
  cases reached with
  | root mem => exact inRange.roots id mem
  | dependency _ mem => exact inRange.dependsOn mem

/-- On a shortest path stand as many nodes as it is long, with shortest paths of their own. -/
theorem nodes_of_isLeast (least : IsLeast {k | g.AtDepth k id} k) :
    ∃ ids : List NodeId, ids.length = k + 1 ∧ ids.Nodup ∧
      ∀ x ∈ ids, ∃ j ≤ k, IsLeast {k | g.AtDepth k x} j := by
  induction k generalizing id with
  | zero => exact ⟨[id], rfl, List.nodup_singleton id, by simpa using least⟩
  | succ k ih =>
    obtain ⟨a, above, depends⟩ := least.1.dependent
    have short : IsLeast {k | g.AtDepth k a} k := by
      refine ⟨above, fun j deep => ?_⟩
      exact Nat.le_of_succ_le_succ (least.2 (AtDepth.dependency deep depends))
    obtain ⟨ids, length, once, own⟩ := ih short
    refine ⟨id :: ids, by rw [List.length_cons, length], List.nodup_cons.mpr ⟨?_, once⟩, ?_⟩
    · intro mem
      obtain ⟨j, le, least'⟩ := own id mem
      have same := least.unique least'
      omega
    · refine List.forall_mem_cons.mpr ⟨⟨k + 1, Nat.le_refl _, least⟩, fun x mem => ?_⟩
      obtain ⟨j, le, least'⟩ := own x mem
      exact ⟨j, Nat.le_succ_of_le le, least'⟩

/-- Whatever is reached is reached in fewer steps than there are nodes. -/
theorem InRange.exists_atDepth (inRange : g.InRange) (reached : g.Reached id) :
    ∃ k < g.nodes.length, g.AtDepth k id := by
  classical
  have deep := reached_iff.mp reached
  have least : IsLeast {k | g.AtDepth k id} (Nat.find deep) :=
    ⟨Nat.find_spec deep, fun k other => Nat.find_min' deep other⟩
  obtain ⟨ids, length, once, own⟩ := nodes_of_isLeast least
  have sub : ids ⊆ List.range g.nodes.length := by
    intro x mem
    obtain ⟨j, _, least'⟩ := own x mem
    exact List.mem_range.mpr (inRange.reached (reached_iff.mpr ⟨j, least'.1⟩))
  have le := (List.subperm_of_subset once sub).length_le
  rw [length, List.length_range] at le
  exact ⟨_, le, least.1⟩

/-! ## Sweeps -/

/-- The node is in the sweep with this number. -/
def SweptAt (sweeps : List (List NodeId)) (k : Nat) (id : NodeId) : Prop :=
  ∃ nodes, sweeps[k]? = some nodes ∧ id ∈ nodes

theorem sweptAt_cons_zero {nodes : List NodeId} {sweeps : List (List NodeId)} :
    SweptAt (nodes :: sweeps) 0 id ↔ id ∈ nodes := by
  simp [SweptAt]

theorem sweptAt_cons_succ {nodes : List NodeId} {sweeps : List (List NodeId)} :
    SweptAt (nodes :: sweeps) (k + 1) id ↔ SweptAt sweeps k id := by
  simp [SweptAt]

theorem sweptAt_sweeps {bound : Nat} {frontier : List NodeId} :
    SweptAt (g.sweeps bound frontier) k id ↔ k < bound ∧ ∃ a ∈ frontier, g.Path k a id := by
  fun_induction sweeps g bound frontier generalizing k with
  | case1 frontier => simp [SweptAt]
  | case2 bound => simp [SweptAt]
  | case3 bound frontier nonempty ih =>
    cases k with
    | zero =>
      rw [sweptAt_cons_zero]
      constructor
      · exact fun mem => ⟨Nat.succ_pos bound, id, mem, .nil id⟩
      · rintro ⟨_, a, mem, path⟩
        cases path
        exact mem
    | succ k =>
      rw [sweptAt_cons_succ, ih, Nat.succ_lt_succ_iff]
      refine and_congr_right fun _ => ?_
      simp only [mem_distinct, List.mem_flatMap]
      constructor
      · rintro ⟨b, ⟨a, mem, depends⟩, path⟩
        exact ⟨a, mem, .cons depends path⟩
      · rintro ⟨a, mem, path⟩
        cases path with
        | cons depends rest => exact ⟨_, ⟨a, mem, depends⟩, rest⟩

theorem sweeps_ne_nil {bound : Nat} {frontier nodes : List NodeId}
    (mem : nodes ∈ g.sweeps bound frontier) : nodes ≠ [] := by
  fun_induction sweeps g bound frontier with
  | case1 => cases mem
  | case2 => cases mem
  | case3 bound frontier nonempty ih =>
    rcases List.mem_cons.mp mem with rfl | later
    · exact nonempty
    · exact ih later

theorem lt_length_sweeps {bound : Nat} {frontier : List NodeId} :
    k < (g.sweeps bound frontier).length ↔ ∃ id, SweptAt (g.sweeps bound frontier) k id := by
  constructor
  · intro lt
    obtain ⟨id, mem⟩ := List.exists_mem_of_ne_nil _ (sweeps_ne_nil (List.getElem_mem lt))
    exact ⟨id, _, List.getElem?_eq_getElem lt, mem⟩
  · rintro ⟨id, nodes, placed, _⟩
    exact (List.getElem?_eq_some_iff.mp placed).1

theorem findRev?_range_eq_some {n : Nat} {p : Nat → Bool} :
    (List.range n).findRev? p = some d ↔ IsGreatest {k | k < n ∧ p k = true} d := by
  induction n with
  | zero => simp [IsGreatest]
  | succ n ih =>
    rw [List.findRev?_eq_find?_reverse, List.range_succ, List.reverse_concat, List.find?_cons,
      ← List.findRev?_eq_find?_reverse]
    split
    · rename_i holds
      have greatest : IsGreatest {k | k < n + 1 ∧ p k = true} n :=
        ⟨⟨Nat.lt_succ_self n, holds⟩, fun k h => Nat.le_of_lt_succ h.1⟩
      rw [Option.some.injEq]
      exact ⟨fun same => same ▸ greatest, greatest.unique⟩
    · rename_i fails
      have same : {k | k < n + 1 ∧ p k = true} = {k | k < n ∧ p k = true} := by
        ext k
        refine and_congr_left fun holds => ⟨fun lt => ?_, Nat.lt_succ_of_lt⟩
        refine Nat.lt_of_le_of_ne (Nat.le_of_lt_succ lt) ?_
        rintro rfl
        rw [fails] at holds
        cases holds
      rw [ih, same]

theorem lastSweep_eq_some {sweeps : List (List NodeId)} :
    lastSweep id sweeps = some d ↔ IsGreatest {k | SweptAt sweeps k id} d := by
  rw [lastSweep, findRev?_range_eq_some]
  refine iff_of_eq (congrArg (IsGreatest · d) (Set.ext fun k => ?_))
  constructor
  · rintro ⟨lt, holds⟩
    rw [List.getElem?_eq_getElem lt] at holds
    exact ⟨_, List.getElem?_eq_getElem lt, of_decide_eq_true holds⟩
  · rintro ⟨nodes, placed, mem⟩
    exact ⟨(List.getElem?_eq_some_iff.mp placed).1, by rw [placed]; exact decide_eq_true mem⟩

/-- A node of some sweep has a last one. -/
theorem exists_lastSweep {id : NodeId} {sweeps : List (List NodeId)} {nodes : List NodeId}
    (swept : nodes ∈ sweeps) (mem : id ∈ nodes) : ∃ d, lastSweep id sweeps = some d := by
  obtain ⟨d, placed⟩ := List.mem_iff_getElem?.mp swept
  rw [← Option.isSome_iff_exists, lastSweep, List.findRev?_eq_find?_reverse, List.find?_isSome]
  refine ⟨d, List.mem_reverse.mpr (List.mem_range.mpr ?_), ?_⟩
  · exact (List.getElem?_eq_some_iff.mp placed).1
  · rw [placed]
    simpa using mem

/-- All the sweeps of the graph. -/
def allSweeps (g : Graph) : List (List NodeId) := g.sweeps (g.nodes.length + 1) g.roots

theorem sweptAt_allSweeps : SweptAt g.allSweeps k id ↔ k ≤ g.nodes.length ∧ g.AtDepth k id := by
  rw [allSweeps, sweptAt_sweeps, Nat.lt_succ_iff]
  rfl

/-! ## Levels -/

/-- The level with this number is the sweep with this number from the end, less what is met again
by a later sweep. -/
theorem getElem?_levels : g.schedule.levels[i]? = if i < g.allSweeps.length then
    some ((List.range g.nodes.length).filter fun id =>
      lastSweep id g.allSweeps == some (g.allSweeps.length - 1 - i)) else none := by
  have length : (List.range g.allSweeps.length).reverse.length = g.allSweeps.length := by simp
  rw [show g.schedule.levels = (List.range g.allSweeps.length).reverse.map fun d =>
    (List.range g.nodes.length).filter fun id => lastSweep id g.allSweeps == some d from rfl,
    List.getElem?_map]
  split
  · rename_i lt
    rw [List.getElem?_reverse (by simpa using lt), List.length_range,
      List.getElem?_range (by omega)]
    rfl
  · rename_i off
    rw [List.getElem?_eq_none (by omega)]
    rfl

theorem mem_level {level : List NodeId} (placed : g.schedule.levels[i]? = some level) :
    id ∈ level ↔ id < g.nodes.length ∧
      IsGreatest {k | SweptAt g.allSweeps k id} (g.allSweeps.length - 1 - i) := by
  rw [getElem?_levels] at placed
  split at placed
  · cases placed
    rw [List.mem_filter, List.mem_range, beq_iff_eq, lastSweep_eq_some]
  · cases placed

theorem length_levels : g.schedule.levels.length = g.allSweeps.length := by
  rw [schedule, List.length_map, List.length_reverse, List.length_range, allSweeps]

/-- Levels share no nodes. -/
theorem schedule_nodes_nodup (g : Graph) : g.schedule.nodes.Nodup := by
  rw [Schedule.nodes, schedule, List.nodup_flatten, List.pairwise_map, List.pairwise_reverse]
  constructor
  · intro level mem
    obtain ⟨d, _, rfl⟩ := List.mem_map.mp mem
    exact List.nodup_range.filter _
  · refine List.nodup_range.imp fun {a b} ne => ?_
    intro id inB inA
    have last := eq_of_beq (List.mem_filter.mp inA).2
    rw [eq_of_beq (List.mem_filter.mp inB).2, Option.some.injEq] at last
    exact ne last.symm

theorem mem_schedule_nodes {id : NodeId} :
    id ∈ g.schedule.nodes ↔ (g.schedule.levelOf id).isSome = true := by
  rw [Schedule.nodes, Schedule.levelOf, List.mem_flatten, List.findIdx?_isSome, List.any_eq_true]
  simp only [decide_eq_true_eq]

/-- Every node that is reached has a level, and no other has one. -/
theorem mem_schedule_iff (inRange : g.InRange) : id ∈ g.schedule.nodes ↔ g.Reached id := by
  constructor
  · intro mem
    obtain ⟨level, listed, mem⟩ := List.mem_flatten.mp mem
    obtain ⟨i, placed⟩ := List.mem_iff_getElem?.mp listed
    have last := ((mem_level placed).mp mem).2
    exact reached_iff.mpr ⟨_, (sweptAt_allSweeps.mp last.1).2⟩
  · intro reached
    obtain ⟨k, lt, deep⟩ := inRange.exists_atDepth reached
    obtain ⟨nodes, swept, mem⟩ := sweptAt_allSweeps.mpr ⟨Nat.le_of_lt lt, deep⟩
    obtain ⟨d, last⟩ := exists_lastSweep (List.mem_of_getElem? swept) mem
    have greatest := lastSweep_eq_some.mp last
    have within : d < g.allSweeps.length := lt_length_sweeps.mpr ⟨id, greatest.1⟩
    have level : g.allSweeps.length - 1 - d < g.schedule.levels.length := by
      rw [length_levels]
      omega
    refine List.mem_flatten.mpr ⟨_, List.getElem_mem level, ?_⟩
    rw [mem_level (List.getElem?_eq_getElem level)]
    refine ⟨inRange.reached reached, ?_⟩
    rwa [Nat.sub_sub_self (Nat.le_sub_one_of_lt within)]

/-- A level is in the order of the ids. -/
theorem pairwise_level {level : List NodeId} (mem : level ∈ g.schedule.levels) :
    level.Pairwise (· < ·) := by
  obtain ⟨_, _, rfl⟩ := List.mem_map.mp mem
  exact List.pairwise_lt_range.filter _

/-! ## Distances -/

/-- No level can be saved: along a path of the greatest length every node needs one of its own. -/
theorem length_levels_le {level : NodeId → Nat} {n : Nat}
    (few : ∀ id, g.Reached id → level id < n)
    (earlier : ∀ a b, g.Reached a → g.DependsOn a b → level b < level a) :
    g.schedule.levels.length ≤ n := by
  rw [length_levels]
  by_contra more
  obtain ⟨id, swept⟩ := lt_length_sweeps.mp (show n < g.allSweeps.length by omega)
  obtain ⟨_, root, isRoot, path⟩ := sweptAt_allSweeps.mp swept
  have le := path.add_le (fun _ _ reached depends => .dependency reached depends) earlier
    (.root isRoot)
  have lt := few root (.root isRoot)
  omega

theorem InRange.grounded (inRange : g.InRange)
    (acyclic : ∀ id, ¬ Relation.TransGen g.DependsOn id id) : g.Grounded :=
  ⟨fun _ _ => inRange.dependsOn, acyclic⟩

/-- A dependency stands before whoever waits for it. -/
theorem Grounded.idxOf_lt (grounded : g.Grounded) {a b : NodeId} (depends : g.DependsOn a b) :
    g.order.idxOf b < g.order.idxOf a := by
  have mem : a ∈ g.order := grounded.mem_order.mpr depends.inRange
  exact (grounded.order_sorted.at (List.getElem?_idxOf mem) depends).2

/-- Without cycles a path falls in the depth-first order, so it is shorter than that order. -/
theorem Grounded.lt_of_path (grounded : g.Grounded) (start : a < g.nodes.length)
    (path : g.Path k a b) : k < g.nodes.length := by
  have le := path.add_le (P := fun _ => True) (fun _ _ _ _ => trivial)
    (fun _ _ _ => grounded.idxOf_lt) trivial
  have lt := List.idxOf_lt_length_of_mem (grounded.mem_order.mpr start)
  have sub : g.order ⊆ List.range g.nodes.length := fun x mem =>
    List.mem_range.mpr (grounded.mem_order.mp mem)
  have length := (List.subperm_of_subset grounded.order_nodup sub).length_le
  rw [List.length_range] at length
  omega

section Acyclic

variable (inRange : g.InRange) (acyclic : ∀ id, ¬ Relation.TransGen g.DependsOn id id)

include inRange acyclic

/-- The sweeps go on as long as there are paths. -/
theorem sweptAt_iff_atDepth : SweptAt g.allSweeps k id ↔ g.AtDepth k id := by
  rw [sweptAt_allSweeps, and_iff_right_iff_imp]
  rintro ⟨root, isRoot, path⟩
  exact Nat.le_of_lt ((inRange.grounded acyclic).lt_of_path (inRange.roots root isRoot) path)

theorem exists_isDistance (reached : g.Reached id) : ∃ d, g.IsDistance id d := by
  obtain ⟨k, deep⟩ := reached_iff.mp reached
  have bounded : ∀ j ∈ {k | g.AtDepth k id}, j ≤ g.nodes.length := fun j deep =>
    (sweptAt_allSweeps.mp ((sweptAt_iff_atDepth inRange acyclic).mpr deep)).1
  classical
  refine ⟨Nat.findGreatest (g.AtDepth · id) g.nodes.length, ?_, fun j deep => ?_⟩
  · exact Nat.findGreatest_spec (bounded k deep) deep
  · exact Nat.le_findGreatest (bounded j deep) deep

theorem isDistance_iff : g.IsDistance id d ↔ IsGreatest {k | SweptAt g.allSweeps k id} d := by
  rw [IsDistance]
  simp only [sweptAt_iff_atDepth inRange acyclic]

theorem lt_of_isDistance (distance : g.IsDistance id d) : d < g.allSweeps.length :=
  lt_length_sweeps.mpr ⟨id, ((isDistance_iff inRange acyclic).mp distance).1⟩

/-- The last sweep is as deep as any node. -/
theorem isDeepest_iff {top : Nat} : g.IsDeepest top ↔ top + 1 = g.allSweeps.length := by
  have last {k : Nat} (lt : k < g.allSweeps.length) : ∃ id d, g.IsDistance id d ∧ k ≤ d := by
    obtain ⟨id, swept⟩ := lt_length_sweeps.mp lt
    have deep := (sweptAt_iff_atDepth inRange acyclic).mp swept
    obtain ⟨d, distance⟩ := exists_isDistance inRange acyclic (reached_iff.mpr ⟨k, deep⟩)
    exact ⟨id, d, distance, distance.2 deep⟩
  constructor
  · rintro ⟨⟨id, distance⟩, deepest⟩
    have lt := lt_of_isDistance inRange acyclic distance
    by_contra more
    obtain ⟨id', d, distance', le⟩ := last (show top + 1 < g.allSweeps.length by omega)
    have le' := deepest ⟨id', distance'⟩
    omega
  · intro length
    have deepest : ∀ d ∈ {d | ∃ id, g.IsDistance id d}, d ≤ top := by
      rintro d ⟨id, distance⟩
      have lt := lt_of_isDistance inRange acyclic distance
      omega
    obtain ⟨id, d, distance, le⟩ := last (show top < g.allSweeps.length by omega)
    have same := Nat.le_antisymm le (deepest d ⟨id, distance⟩)
    exact ⟨⟨id, same ▸ distance⟩, deepest⟩

/-- A node stands as far from the last level as it is from the roots. -/
theorem mem_level_iff {level : List NodeId} (placed : g.schedule.levels[i]? = some level) :
    id ∈ level ↔ ∃ d, g.IsDistance id d ∧ g.IsDeepest (i + d) := by
  have lt := (List.getElem?_eq_some_iff.mp placed).1
  rw [length_levels] at lt
  rw [mem_level placed, ← isDistance_iff inRange acyclic]
  constructor
  · rintro ⟨_, distance⟩
    exact ⟨_, distance, (isDeepest_iff inRange acyclic).mpr (by omega)⟩
  · rintro ⟨d, distance, deepest⟩
    have length := (isDeepest_iff inRange acyclic).mp deepest
    refine ⟨inRange.reached (reached_iff.mpr ⟨d, distance.1⟩), ?_⟩
    rwa [show g.allSweeps.length - 1 - i = d by omega]

end Acyclic

end Graph

end KeyFlow
