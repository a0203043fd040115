import KeyFlow.Proofs.Graph.Checked
import KeyFlow.Proofs.Graph.Represented

/-!
The order of the nodes of any graph, with cycles or without, is what a recursion gives that visits
the nodes as they are declared and puts each behind all that it depends on. The walk works off a
stack on which a node stands below what was pushed for it; what was pushed and then met elsewhere is
finished by the time it is on top.
-/

namespace KeyFlow

theorem unmarked_append_le {α : Type} [DecidableEq α] (all more marked : List α) :
    unmarked all (more ++ marked) ≤ unmarked all marked := by
  induction more with
  | nil => exact Nat.le_refl _
  | cons x more ih => exact (unmarked_cons_le all (more ++ marked) x).trans ih

namespace Graph

variable {g : Graph}

theorem unmarked_entered_lt {met : List NodeId} {id : NodeId}
    (new : ¬ (id ∈ met ∨ g.nodes.length ≤ id)) :
    unmarked (List.range g.nodes.length) (id :: met) <
      unmarked (List.range g.nodes.length) met := by
  obtain ⟨unmet, inside⟩ := not_or.mp new
  exact unmarked_cons_lt (List.mem_range.mpr (Nat.lt_of_not_le inside)) unmet

/-- Visits nodes one after another and gives those that were not met before, each behind what it
depends on. What is no node is passed over. -/
def visit (g : Graph) (met : List NodeId) : List NodeId → List NodeId
  | [] => []
  | id :: ids =>
    if _known : id ∈ met ∨ g.nodes.length ≤ id then g.visit met ids
    else
      let below := g.visit (id :: met) (g.dependencyNodes id)
      below ++ id :: g.visit (below ++ id :: met) ids
termination_by ids => (unmarked (List.range g.nodes.length) met, ids.length)
decreasing_by
  · exact Prod.Lex.right _ (by simp)
  · exact Prod.Lex.left _ _ (unmarked_entered_lt _known)
  · exact Prod.Lex.left _ _
      (Nat.lt_of_le_of_lt (unmarked_append_le ..) (unmarked_entered_lt _known))

/-- Starts at each node in the order of declaration. -/
def postOrder (g : Graph) : List NodeId := g.visit [] (List.range g.nodes.length)

/-! ## What the recursion gives -/

@[simp] theorem visit_nil (met : List NodeId) : g.visit met [] = [] := by rw [visit]

theorem visit_of_known {met : List NodeId} {id : NodeId} {ids : List NodeId}
    (known : id ∈ met ∨ g.nodes.length ≤ id) : g.visit met (id :: ids) = g.visit met ids := by
  rw [visit, dif_pos known]

theorem visit_of_new {met : List NodeId} {id : NodeId} {ids : List NodeId}
    (new : ¬ (id ∈ met ∨ g.nodes.length ≤ id)) :
    g.visit met (id :: ids) = g.visit (id :: met) (g.dependencyNodes id) ++
      id :: g.visit (g.visit (id :: met) (g.dependencyNodes id) ++ id :: met) ids := by
  rw [visit, dif_neg new]

/-- A visit gives nodes that were not met before. -/
theorem visit_fresh (met ids : List NodeId) :
    ∀ x ∈ g.visit met ids, x ∉ met ∧ x < g.nodes.length := by
  fun_induction visit g met ids with
  | case1 => simp
  | case2 met id ids known ih => exact ih
  | case3 met id ids new below ih₁ ih₂ =>
    obtain ⟨unmet, inside⟩ := not_or.mp new
    have known {x : NodeId} (mem : x ∈ met) : x ∈ below ++ id :: met :=
      List.mem_append_right _ (List.mem_cons_of_mem _ mem)
    intro x mem
    rcases List.mem_append.mp mem with under | here
    · obtain ⟨other, lt⟩ := ih₁ x under
      exact ⟨fun met => other (List.mem_cons_of_mem _ met), lt⟩
    · rcases List.mem_cons.mp here with rfl | later
      · exact ⟨unmet, Nat.lt_of_not_le inside⟩
      · obtain ⟨other, lt⟩ := ih₂ x later
        exact ⟨fun met => other (known met), lt⟩

/-- Each node is given once. -/
theorem visit_nodup (met ids : List NodeId) : (g.visit met ids).Nodup := by
  fun_induction visit g met ids with
  | case1 => exact List.nodup_nil
  | case2 met id ids known ih => exact ih
  | case3 met id ids new below ih₁ ih₂ =>
    have later {x : NodeId} (mem : x ∈ g.visit (below ++ id :: met) ids) :
        x ∉ below ∧ x ≠ id := by
      have fresh := (visit_fresh _ _ x mem).1
      rw [List.mem_append, List.mem_cons] at fresh
      exact ⟨fun under => fresh (.inl under), fun same => fresh (.inr (.inl same))⟩
    refine List.nodup_append.mpr ⟨ih₁, List.nodup_cons.mpr ⟨fun mem => (later mem).2 rfl, ih₂⟩, ?_⟩
    rintro x under y mem rfl
    rcases List.mem_cons.mp mem with rfl | mem
    · exact (visit_fresh _ _ x under).1 (List.mem_cons_self ..)
    · exact (later mem).1 under

/-- No node is left out. -/
theorem mem_visit (met ids : List NodeId) :
    ∀ x ∈ ids, x < g.nodes.length → x ∈ met ∨ x ∈ g.visit met ids := by
  fun_induction visit g met ids with
  | case1 => simp
  | case2 met id ids known ih =>
    refine List.forall_mem_cons.mpr ⟨fun lt => ?_, ih⟩
    exact .inl (known.resolve_right (Nat.not_le.mpr lt))
  | case3 met id ids new below ih₁ ih₂ =>
    refine List.forall_mem_cons.mpr ⟨fun _ => .inr (by simp), fun x mem lt => ?_⟩
    have visited := ih₂ x mem lt
    simpa only [List.mem_append, List.mem_cons, or_assoc, or_left_comm] using visited

/-! ## The walk -/

/-- In the middle of a walk. The machine knows what was met, and of what was pushed, but for what
had been seen by then, just the finished nodes are met by now. -/
structure Midway (met ids seen known done : List NodeId) : Prop where
  same : ∀ x, x ∈ known ↔ x ∈ met
  before : ∀ x ∈ seen, x ∈ met
  finished : ∀ x ∈ done, x ∈ met
  settled : ∀ x ∈ ids, x ∈ met → x ∈ seen ∨ x ∈ done

namespace Midway

variable {met ids seen known done : List NodeId} {id : NodeId}

theorem tail (midway : Midway met (id :: ids) seen known done) : Midway met ids seen known done :=
  ⟨midway.same, midway.before, midway.finished, (List.forall_mem_cons.mp midway.settled).2⟩

/-- A node is met, and what it depends on is pushed, but for what is met already. -/
theorem enter (midway : Midway met (id :: ids) seen known done) (pushed : List NodeId) :
    Midway (id :: met) pushed (id :: known) (id :: known) done where
  same x := by rw [List.mem_cons, List.mem_cons, midway.same]
  before x mem := by rwa [List.mem_cons, midway.same, ← List.mem_cons] at mem
  finished x closed := List.mem_cons_of_mem _ (midway.finished x closed)
  settled x _ mem := .inl (by rwa [List.mem_cons, midway.same, ← List.mem_cons])

/-- A node is finished behind those below it. -/
theorem leave (midway : Midway met (id :: ids) seen known done) {below known' : List NodeId}
    (all : ∀ x, x ∈ known' ↔ x ∈ below ∨ x ∈ id :: met) :
    Midway (below ++ id :: met) ids seen known' (done ++ below ++ [id]) where
  same x := (all x).trans List.mem_append.symm
  before x mem := List.mem_append_right _ (List.mem_cons_of_mem _ (midway.before x mem))
  finished := by
    refine List.forall_mem_append.mpr ⟨List.forall_mem_append.mpr ⟨fun x closed => ?_, ?_⟩, ?_⟩
    · exact List.mem_append_right _ (List.mem_cons_of_mem _ (midway.finished x closed))
    · exact fun x under => List.mem_append_left _ under
    · exact List.forall_mem_singleton.mpr (List.mem_append_right _ (List.mem_cons_self ..))
  settled := by
    intro x mem visited
    rcases List.mem_append.mp visited with under | before
    · exact .inr (by simp [under])
    · rcases List.mem_cons.mp before with rfl | before
      · exact .inr (by simp)
      · have closed := midway.settled x (List.mem_cons_of_mem _ mem) before
        exact closed.imp_right fun before => by simp [before]

end Midway

/-- The walk over what was pushed, but for what had been seen by then, finishes what a visit gives
and then goes on with the rest of the stack. -/
theorem walk_visit (inRange : g.InRange) {met : List NodeId}
    (ids seen known done rest : List NodeId)
    (inside : ∀ x ∈ ids, x < g.nodes.length) (midway : Midway met ids seen known done) :
    ∃ known', (∀ x, x ∈ known' ↔ x ∈ g.visit met ids ∨ x ∈ met) ∧
      g.walk (ids.filter (· ∉ seen) ++ rest) known done =
        g.walk rest known' (done ++ g.visit met ids) := by
  fun_induction visit g met ids generalizing seen known done rest with
  | case1 met => exact ⟨known, by simpa using midway.same, by simp⟩
  | case2 met id ids old ih =>
    obtain ⟨here, later⟩ := List.forall_mem_cons.mp inside
    have mem : id ∈ met := old.resolve_right (Nat.not_le.mpr here)
    obtain ⟨known', all, walked⟩ := ih seen known done rest later midway.tail
    refine ⟨known', all, ?_⟩
    by_cases before : id ∈ seen
    · rwa [List.filter_cons_of_neg (by simpa using before)]
    · have closed := (midway.settled id (List.mem_cons_self ..) mem).resolve_left before
      rw [List.filter_cons_of_pos (by simpa using before), List.cons_append, walk,
        dif_pos (.inl ((midway.same id).mpr mem)), if_pos closed, walked]
  | case3 met id ids new below ih₁ =>
    rename_i ih₂
    obtain ⟨unmet, _⟩ := not_or.mp new
    have first : (id :: ids).filter (· ∉ seen) = id :: ids.filter (· ∉ seen) :=
      List.filter_cons_of_pos (by simpa using fun mem => unmet (midway.before id mem))
    -- What the node depends on is finished first, with the node itself left on the stack.
    obtain ⟨known₁, all₁, walked₁⟩ := ih₁ (id :: known) (id :: known) done
      (id :: (ids.filter (· ∉ seen) ++ rest)) (fun x mem => inRange.dependsOn mem)
      (midway.enter _)
    have undone : id ∉ done ++ below := by
      rw [List.mem_append, not_or]
      refine ⟨fun closed => unmet (midway.finished id closed), fun under => ?_⟩
      exact (visit_fresh _ _ id under).1 (List.mem_cons_self ..)
    -- Then the node is on top again, and after it the others of its kind.
    obtain ⟨known₂, all₂, walked₂⟩ := ih₂ seen known₁ (done ++ below ++ [id]) rest
      (List.forall_mem_cons.mp inside).2 (midway.leave all₁)
    refine ⟨known₂, fun x => ?_, ?_⟩
    · rw [all₂]
      simp only [List.mem_append, List.mem_cons, or_assoc, or_left_comm]
    · rw [first, List.cons_append, walk, dif_neg (by rwa [midway.same]), walked₁, walk,
        dif_pos (.inl ((all₁ id).mpr (.inr (List.mem_cons_self ..)))), if_neg undone, walked₂]
      simp

/-- The first node is visited, and then the others. -/
theorem visit_cons (met : List NodeId) (id : NodeId) (ids : List NodeId) :
    g.visit met (id :: ids) = g.visit met [id] ++ g.visit (g.visit met [id] ++ met) ids := by
  by_cases known : id ∈ met ∨ g.nodes.length ≤ id
  · rw [visit_of_known known, visit_of_known known, visit_nil, List.nil_append, List.nil_append]
  · rw [visit_of_new known, visit_of_new known, visit_nil, List.append_assoc, List.append_assoc]
    rfl

/-- Walks that start one after another finish what a visit of the starts gives. -/
theorem foldl_walk_visit (inRange : g.InRange) (starts : List NodeId)
    {met known done : List NodeId} (inside : ∀ x ∈ starts, x < g.nodes.length)
    (same : ∀ x, x ∈ known ↔ x ∈ met) (finished : ∀ x, x ∈ done ↔ x ∈ met) :
    (starts.foldl (fun (met, done) start => g.walk [start] met done) (known, done)).2 =
      done ++ g.visit met starts := by
  induction starts generalizing met known done with
  | nil => rw [visit_nil, List.append_nil, List.foldl_nil]
  | cons start starts ih =>
    obtain ⟨here, later⟩ := List.forall_mem_cons.mp inside
    have midway : Midway met [start] [] known done :=
      ⟨same, by simp, fun x => (finished x).mp, fun x _ mem => .inr ((finished x).mpr mem)⟩
    obtain ⟨known', all, walked⟩ := walk_visit inRange [start] [] known done []
      (List.forall_mem_singleton.mpr here) midway
    have one : g.walk [start] known done = (known', done ++ g.visit met [start]) := by
      simpa [walk] using walked
    show (starts.foldl _ (g.walk [start] known done)).2 = _
    rw [one, visit_cons met start starts, ← List.append_assoc]
    refine ih later (fun x => (all x).trans List.mem_append.symm) fun x => ?_
    rw [List.mem_append, List.mem_append, finished, or_comm]

/-- The order of the nodes is the one in which the recursion visits them. -/
theorem order_eq (inRange : g.InRange) : g.order = g.postOrder :=
  foldl_walk_visit inRange _ (fun x mem => List.mem_range.mp mem) (by simp) (by simp)

/-! ## The stack machine -/

/-- The nodes that edges lead to from this one, the edge that was added last first. -/
def neighbors (g : Graph) (id : NodeId) : List NodeId :=
  ((g.edges.filter (·.1 = id)).map (·.2)).reverse

/-- In a walk over the nodes, one of them gives these. -/
theorem flatMap_range_single {α : Type} (n i : Nat) (l : List α) :
    ((List.range n).flatMap fun x => if x = i then l else []) = if i < n then l else [] := by
  induction n with
  | zero => rfl
  | succ n ih =>
    rw [List.range_succ, List.flatMap_append, ih, List.flatMap_singleton]
    by_cases last : n = i
    · subst last
      simp
    · rw [if_neg last, List.append_nil]
      refine if_congr ?_ rfl rfl
      omega

theorem neighbors_eq (g : Graph) (id : NodeId) :
    g.neighbors id = (g.dependencyNodes id).reverse := by
  have own : ∀ x, ((g.dependencyNodes x).map (x, ·)).filter (·.1 = id) =
      if x = id then (g.dependencyNodes id).map (id, ·) else [] := by
    intro x
    by_cases same : x = id
    · subst same
      simp
    · simp [same]
  have outside (lt : ¬ id < g.nodes.length) : g.dependencyNodes id = [] := by
    rw [dependencyNodes, dependenciesOf, List.getElem?_eq_none (Nat.le_of_not_lt lt)]
    rfl
  rw [neighbors, edges, List.filter_flatMap]
  simp only [own, flatMap_range_single]
  split
  · simp
  · rename_i lt
    rw [outside lt]
    rfl

/-- Puts nodes on the stack one after another, but for those that were met. -/
def push (met stack ids : List NodeId) : List NodeId :=
  ids.foldl (fun stack id => if id ∈ met then stack else id :: stack) stack

theorem push_reverse (met stack ids : List NodeId) :
    push met stack ids.reverse = ids.filter (· ∉ met) ++ stack := by
  rw [push, List.foldl_reverse]
  induction ids with
  | nil => rfl
  | cons id ids ih =>
    rw [List.foldr_cons, ih]
    by_cases mem : id ∈ met <;> simp [mem]

/-- The order of the nodes is their depth-first post-order. -/
structure PostOrdered (g : Graph) : Prop where
  /-- The walk is that of a machine over the edges. A node on top of the stack that was not met
  stays there and its neighbors are put on it; one that was met is taken off and, the first time,
  finished. -/
  step : ∀ id < g.nodes.length, ∀ stack met done, g.walk (id :: stack) met done =
    if id ∈ met then g.walk stack met (if id ∈ done then done else done ++ [id])
    else g.walk (push (id :: met) (id :: stack) (g.neighbors id)) (id :: met) done
  /-- What the machine finishes, started at each node, is what the recursion visits. -/
  recursive : g.order = g.postOrder
  once : g.order.Nodup
  all : ∀ id, id ∈ g.order ↔ id < g.nodes.length
  sorted : (∀ a, ¬ Relation.TransGen g.DependsOn a a) → g.Sorted g.order

theorem InRange.postOrdered (inRange : g.InRange) : g.PostOrdered where
  step := by
    intro id inside stack met done
    have here : (id ∈ met ∨ g.nodes.length ≤ id) ↔ id ∈ met := or_iff_left (Nat.not_le.mpr inside)
    rw [neighbors_eq, push_reverse, walk]
    simp only [here, dite_eq_ite]
  recursive := order_eq inRange
  once := by
    rw [order_eq inRange]
    exact visit_nodup ..
  all id := by
    rw [order_eq inRange]
    constructor
    · exact fun mem => (visit_fresh _ _ id mem).2
    · intro lt
      exact (mem_visit [] _ id (List.mem_range.mpr lt) lt).resolve_left List.not_mem_nil
  sorted acyclic := Grounded.order_sorted ⟨fun _ _ depends => inRange.dependsOn depends, acyclic⟩

end Graph

namespace Spec

variable {s : Spec} {d : Draft}

/-- The order of the nodes of any graph that is made, with cycles or without, is found without a
fault and is the depth-first post-order: each node once, and in a graph without cycles behind all
that it depends on. -/
theorem order_is_postOrder (drafted : s.draft = .ok d) :
    d.graph.orderChecked = .ok d.graph.order ∧ d.graph.PostOrdered := by
  have inRange := (draft_represents drafted).inRange
  exact ⟨Graph.orderChecked_eq inRange, inRange.postOrdered⟩

/-- The first task waits for the two others, and the second one for the first. -/
def knottedSpec : Spec where
  name := "knotted"
  location := ⟨"flow", 1, 1⟩
  inputs := []
  outputs := [⟨.named "out", ⟨"flow", 2, 1⟩⟩]
  tasks := [
    { location := ⟨"flow", 3, 1⟩
      signature := ⟨[.named "left", .named "right"], [.named "out"], false⟩ },
    { location := ⟨"flow", 4, 1⟩, signature := ⟨[.named "out"], [.named "left"], false⟩ },
    { location := ⟨"flow", 5, 1⟩, signature := ⟨[], [.named "right"], false⟩ }]

theorem order_is_postOrder_knotted :
    ∃ d, knottedSpec.draft = .ok d ∧ d.graph.orderChecked = .ok [1, 2, 0] := by
  have made : ∃ d, knottedSpec.draft = .ok d ∧ d.graph.nodes.length = 3 ∧
      d.graph.dependencyNodes 0 = [1, 2] ∧ d.graph.dependencyNodes 1 = [0] ∧
      d.graph.dependencyNodes 2 = [] := ⟨_, rfl, rfl, rfl, rfl, rfl⟩
  obtain ⟨d, drafted, size, first, second, third⟩ := made
  obtain ⟨checked, ordered⟩ := order_is_postOrder drafted
  refine ⟨d, drafted, ?_⟩
  rw [checked, ordered.recursive, Graph.postOrder, size]
  simp [Graph.visit, List.range_succ, size, first, second, third]

end Spec

end KeyFlow
