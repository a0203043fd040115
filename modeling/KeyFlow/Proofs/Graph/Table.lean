import KeyFlow.Proofs.Graph.Levels

/-!
The levels of a graph as they are written down: a table holds the depth at which each node was met
last, a row of flags the nodes that the next sweep holds already. Every look-up and every difference
is checked, and in a graph whose providers and tasks are its nodes no check fails, with cycles or
without.
-/

namespace KeyFlow

namespace Graph

/-! ## The tables -/

/-- Nodes that are not flagged yet come next, and are flagged. -/
def flagAll : List NodeId → List Bool → List NodeId → Except Fault (List Bool × List NodeId)
  | [], flags, next => .ok (flags, next)
  | id :: ids, flags, next =>
    match flags[id]? with
    | none => .error (.missingNode id)
    | some true => flagAll ids flags next
    | some false => flagAll ids (flags.set id true) (next ++ [id])

/-- Writes the depth of a sweep at each of its nodes, and notes what they wait for. -/
def sweepOver (g : Graph) (depth : Nat) : List NodeId → List (Option Nat) → List Bool →
    List NodeId → Except Fault (List (Option Nat) × List NodeId)
  | [], depths, _, next => .ok (depths, next)
  | id :: ids, depths, flags, next =>
    match depths[id]?, g.nodes[id]? with
    | some _, some _ => do
      let (flags, next) ← flagAll (g.dependencyNodes id) flags next
      g.sweepOver depth ids (depths.set id (some depth)) flags next
    | _, _ => .error (.missingNode id)

/-- Sweep after sweep; the answer is the depth of the last one, and the table. -/
def sweepAll (g : Graph) : (bound depth deepest : Nat) → List NodeId → List (Option Nat) →
    Except Fault (Nat × List (Option Nat))
  | 0, _, deepest, _, depths => .ok (deepest, depths)
  | _ + 1, _, deepest, [], depths => .ok (deepest, depths)
  | bound + 1, depth, _, id :: ids, depths => do
    let (depths, next) ←
      g.sweepOver depth (id :: ids) depths (List.replicate g.nodes.length false) []
    g.sweepAll bound (depth + 1) depth next depths

/-- Puts the nodes from `id` on into their levels. -/
def place (deepest : Nat) : (id : NodeId) → List (Option Nat) → List (List NodeId) →
    Except Fault (List (List NodeId))
  | _, [], levels => .ok levels
  | id, none :: depths, levels => place deepest (id + 1) depths levels
  | id, some depth :: depths, levels =>
    if depth ≤ deepest then
      match levels[deepest - depth]? with
      | some level =>
        place deepest (id + 1) depths (levels.set (deepest - depth) (level ++ [id]))
      | none => .error (.missingNode id)
    else .error .countBelowZero

/-- The schedule, with every step checked. -/
def tabulate (g : Graph) : Except Fault Schedule := do
  let (deepest, depths) ←
    g.sweepAll (g.nodes.length + 1) 0 0 g.roots (List.replicate g.nodes.length none)
  if depths.all (·.isNone) then return {}
  return ⟨← place deepest 0 depths (List.replicate (deepest + 1) [])⟩

/-! ## What they hold -/

variable {g : Graph} {n : Nat}

theorem set_map_range {α : Type} (f : Nat → α) (i : Nat) (a : α) :
    ((List.range n).map f).set i a = (List.range n).map fun x => if x = i then a else f x := by
  apply List.ext_getElem?
  intro x
  rw [List.getElem?_set, List.length_map, List.length_range, List.getElem?_map, List.getElem?_map]
  by_cases lt : x < n
  · rw [List.getElem?_range lt, Option.map_some, Option.map_some]
    by_cases here : i = x
    · rw [if_pos here, if_pos (here ▸ lt), if_pos here.symm]
    · rw [if_neg here, if_neg (Ne.symm here)]
  · rw [List.getElem?_eq_none (by simpa using lt)]
    split
    · rw [if_neg (by omega)]
      rfl
    · rfl

/-- One more node behind those noted so far. -/
def noted (seen : List NodeId) (id : NodeId) : List NodeId :=
  if id ∈ seen then seen else seen ++ [id]

theorem mem_noted {seen : List NodeId} {id x : NodeId} : x ∈ noted seen id ↔ x = id ∨ x ∈ seen := by
  unfold noted
  split
  · rename_i known
    exact ⟨.inr, fun h => h.elim (fun same => same ▸ known) fun before => before⟩
  · rw [List.mem_append, List.mem_singleton, or_comm]

/-- The row of flags for the nodes noted so far. -/
def flagsOf (n : Nat) (next : List NodeId) : List Bool := (List.range n).map (· ∈ next)

theorem flagAll_eq {ids next : List NodeId} (inRange : ∀ id ∈ ids, id < n) :
    flagAll ids (flagsOf n next) next =
      .ok (flagsOf n (ids.foldl noted next), ids.foldl noted next) := by
  induction ids generalizing next with
  | nil => rfl
  | cons id ids ih =>
    obtain ⟨here, later⟩ := List.forall_mem_cons.mp inRange
    have flag : (flagsOf n next)[id]? = some (decide (id ∈ next)) := by
      rw [flagsOf, List.getElem?_map, List.getElem?_range here]
      rfl
    rw [flagAll, flag, List.foldl_cons]
    by_cases known : id ∈ next
    · have same : noted next id = next := if_pos known
      rw [decide_eq_true known, same]
      exact ih later
    · have more : noted next id = next ++ [id] := if_neg known
      have flags : (flagsOf n next).set id true = flagsOf n (noted next id) := by
        rw [flagsOf, set_map_range, flagsOf]
        refine List.map_congr_left fun x _ => ?_
        simp only [mem_noted]
        by_cases same : x = id <;> simp [same]
      rw [decide_eq_false known]
      show flagAll ids ((flagsOf n next).set id true) (next ++ [id]) = _
      rw [flags, ← more]
      exact ih later

theorem sweepOver_eq (inRange : g.InRange) {depth : Nat} {ids next : List NodeId}
    {f : NodeId → Option Nat} (nodes : ∀ id ∈ ids, id < g.nodes.length) :
    g.sweepOver depth ids ((List.range g.nodes.length).map f) (flagsOf g.nodes.length next) next =
      .ok ((List.range g.nodes.length).map fun x => if x ∈ ids then some depth else f x,
        (ids.flatMap g.dependencyNodes).foldl noted next) := by
  induction ids generalizing next f with
  | nil => simp [sweepOver]
  | cons id ids ih =>
    obtain ⟨here, later⟩ := List.forall_mem_cons.mp nodes
    have dependencies : ∀ d ∈ g.dependencyNodes id, d < g.nodes.length := fun d mem =>
      inRange.dependsOn mem
    rw [sweepOver, List.getElem?_map, List.getElem?_range here, List.getElem?_eq_getElem here]
    show (flagAll _ _ _ >>= _) = _
    rw [flagAll_eq dependencies]
    show g.sweepOver depth ids _ _ _ = _
    rw [set_map_range, ih later, List.flatMap_cons, List.foldl_append]
    congr 2
    refine List.map_congr_left fun x _ => ?_
    by_cases same : x = id <;> simp [same]

theorem lastSweep_concat {id : NodeId} {sweeps : List (List NodeId)} {nodes : List NodeId} :
    lastSweep id (sweeps ++ [nodes]) =
      if id ∈ nodes then some sweeps.length else lastSweep id sweeps := by
  have swept {k : Nat} : SweptAt (sweeps ++ [nodes]) k id ↔
      SweptAt sweeps k id ∨ k = sweeps.length ∧ id ∈ nodes := by
    simp only [SweptAt, List.getElem?_append]
    split
    · rename_i lt
      simp [Nat.ne_of_lt lt]
    · rename_i off
      rw [List.getElem?_eq_none (Nat.le_of_not_lt off), List.getElem?_singleton]
      by_cases last : k = sweeps.length
      · simp [last]
      · simp [last, show k - sweeps.length ≠ 0 by omega]
  refine Option.ext fun d => ?_
  rw [lastSweep_eq_some]
  split
  · rename_i mem
    have greatest : IsGreatest {k | SweptAt (sweeps ++ [nodes]) k id} sweeps.length := by
      refine ⟨swept.mpr (.inr ⟨rfl, mem⟩), fun k stands => ?_⟩
      rcases swept.mp stands with ⟨_, stands, _⟩ | ⟨rfl, _⟩
      · exact Nat.le_of_lt (List.getElem?_eq_some_iff.mp stands).1
      · exact Nat.le_refl _
    rw [Option.some.injEq]
    exact ⟨greatest.unique, fun same => same ▸ greatest⟩
  · rename_i off
    rw [lastSweep_eq_some]
    simp only [swept, off, and_false, or_false]

/-- The table after the sweeps. -/
def depthsOf (g : Graph) (sweeps : List (List NodeId)) : List (Option Nat) :=
  (List.range g.nodes.length).map (lastSweep · sweeps)

theorem sweepAll_eq (inRange : g.InRange) (done : List (List NodeId)) (bound : Nat)
    {frontier : List NodeId} (nodes : ∀ id ∈ frontier, id < g.nodes.length) :
    g.sweepAll bound done.length (done.length - 1) frontier (g.depthsOf done) =
      .ok ((done ++ g.sweeps bound frontier).length - 1,
        g.depthsOf (done ++ g.sweeps bound frontier)) := by
  induction bound generalizing frontier done with
  | zero => rw [sweepAll, sweeps, List.append_nil]
  | succ bound ih =>
    cases frontier with
    | nil => rw [sweepAll, sweeps, List.append_nil]
    | cons id ids =>
      have noFlags : List.replicate g.nodes.length false = flagsOf g.nodes.length [] := by
        simp [flagsOf, List.map_const']
      have written : (List.range g.nodes.length).map (fun x =>
          if x ∈ id :: ids then some done.length else lastSweep x done) =
          g.depthsOf (done ++ [id :: ids]) :=
        List.map_congr_left fun x _ => lastSweep_concat.symm
      have later : ∀ x ∈ distinct ((id :: ids).flatMap g.dependencyNodes), x < g.nodes.length := by
        intro x mem
        obtain ⟨a, _, depends⟩ := List.mem_flatMap.mp (mem_distinct.mp mem)
        exact inRange.dependsOn depends
      have rest := ih (done ++ [id :: ids]) later
      rw [List.length_append, List.length_singleton, Nat.add_sub_cancel, List.append_assoc,
        List.singleton_append] at rest
      rw [sweepAll, noFlags, depthsOf, sweepOver_eq inRange nodes, written]
      rw [sweeps]
      · exact rest
      · simp

/-- The levels of the nodes before `id`. -/
def levelsOf (f : NodeId → Option Nat) (deepest : Nat) (id : NodeId) : List (List NodeId) :=
  (List.range (deepest + 1)).map fun i =>
    (List.range id).filter fun x => f x == some (deepest - i)

theorem place_eq {f : NodeId → Option Nat} {deepest : Nat}
    (within : ∀ x d, f x = some d → d ≤ deepest) (id count : Nat) :
    place deepest id ((List.range' id count).map f) (levelsOf f deepest id) =
      .ok (levelsOf f deepest (id + count)) := by
  induction count generalizing id with
  | zero => rfl
  | succ count ih =>
    have next := ih (id + 1)
    rw [show id + 1 + count = id + (count + 1) by omega] at next
    rw [List.range'_succ, List.map_cons]
    cases depth : f id with
    | none =>
      have same : levelsOf f deepest (id + 1) = levelsOf f deepest id := by
        refine List.map_congr_left fun i _ => ?_
        rw [List.range_succ, List.filter_append]
        simp [depth]
      rw [place, ← same]
      exact next
    | some d =>
      have le := within id d depth
      have level : (levelsOf f deepest id)[deepest - d]? =
          some ((List.range id).filter fun x => f x == some d) := by
        rw [levelsOf, List.getElem?_map, List.getElem?_range (by omega), Option.map_some,
          Nat.sub_sub_self le]
      have set : (levelsOf f deepest id).set (deepest - d)
          ((List.range id).filter (fun x => f x == some d) ++ [id]) =
          levelsOf f deepest (id + 1) := by
        rw [levelsOf, set_map_range, levelsOf]
        refine List.map_congr_left fun i mem => ?_
        have lt := List.mem_range.mp mem
        rw [List.range_succ, List.filter_append]
        by_cases here : i = deepest - d
        · rw [if_pos here, here, Nat.sub_sub_self le]
          simp [depth]
        · rw [if_neg here]
          simp [depth, show d ≠ deepest - i by omega]
      rw [place, if_pos le, level]
      show place deepest (id + 1) _ ((levelsOf f deepest id).set _ _) = _
      rw [set]
      exact next

theorem levelsOf_allSweeps (nonempty : g.allSweeps ≠ []) :
    levelsOf (lastSweep · g.allSweeps) (g.allSweeps.length - 1) g.nodes.length =
      g.schedule.levels := by
  have pos := List.length_pos_iff.mpr nonempty
  apply List.ext_getElem?
  intro i
  rw [getElem?_levels, levelsOf, List.getElem?_map, Nat.sub_add_cancel pos]
  split
  · rename_i lt
    rw [List.getElem?_range lt]
    rfl
  · rename_i off
    rw [List.getElem?_eq_none (by simpa using off)]
    rfl

/-- No check fails. -/
theorem tabulate_eq (inRange : g.InRange) : g.tabulate = .ok g.schedule := by
  have empty : List.replicate g.nodes.length none = g.depthsOf [] := by
    simp [depthsOf, lastSweep, List.map_const']
  have swept := sweepAll_eq inRange [] (g.nodes.length + 1) inRange.roots
  rw [List.nil_append, ← allSweeps, List.length_nil, Nat.zero_sub] at swept
  rw [tabulate, empty, swept]
  show (if (g.depthsOf g.allSweeps).all (·.isNone) = true then _ else _) = _
  by_cases neverSwept : g.allSweeps = []
  · have levels : g.schedule.levels = [] := by
      rw [← List.length_eq_zero_iff, length_levels, neverSwept]
      rfl
    have all : (g.depthsOf g.allSweeps).all (·.isNone) = true := by
      rw [neverSwept, ← empty]
      simp
    rw [if_pos all]
    exact congrArg Except.ok (congrArg Schedule.mk levels.symm)
  · obtain ⟨id, nodes, stands, mem⟩ := lt_length_sweeps.mp (List.length_pos_iff.mpr neverSwept)
    have listed : nodes ∈ g.allSweeps := List.mem_of_getElem? stands
    have lt := inRange.reached (reached_iff.mpr ⟨0, (sweptAt_allSweeps.mp ⟨nodes, stands, mem⟩).2⟩)
    obtain ⟨d, last⟩ := exists_lastSweep listed mem
    have notAll : ¬ (g.depthsOf g.allSweeps).all (·.isNone) = true := by
      intro all
      have neverSwept := List.all_eq_true.mp all _ (List.mem_map_of_mem (List.mem_range.mpr lt))
      rw [last] at neverSwept
      cases neverSwept
    have within : ∀ x d, lastSweep x g.allSweeps = some d → d ≤ g.allSweeps.length - 1 := by
      intro x d last
      have lt := lt_length_sweeps.mpr ⟨x, (lastSweep_eq_some.mp last).1⟩
      exact Nat.le_sub_one_of_lt lt
    have placed := place_eq within 0 g.nodes.length
    have start : List.replicate (g.allSweeps.length - 1 + 1) [] =
        levelsOf (lastSweep · g.allSweeps) (g.allSweeps.length - 1) 0 := by
      simp [levelsOf, List.map_const']
    rw [← List.range_eq_range', Nat.zero_add, levelsOf_allSweeps neverSwept] at placed
    rw [if_neg notAll, start, depthsOf, placed]
    rfl

end Graph

end KeyFlow
