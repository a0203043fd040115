import KeyFlow.Plan
import KeyFlow.Proofs.Graph.Table

/-!
Compiling with every look-up of a node checked. The walks over the keys, the search for a cycle and
the order of the nodes look nodes up by the ids that providers, tasks and edges hold, and the levels
write tables at them. In a graph in which these are all in range no check fails, so each pass gives
what it gives without the checks.
-/

namespace KeyFlow

namespace Graph

/-! ## The passes -/

/-- The node with this id. -/
def nodeAt (g : Graph) (id : NodeId) : Except Fault Node :=
  match g.nodes[id]? with
  | some n => .ok n
  | none => .error (.missingNode id)

def demandsChecked (g : Graph) : Except Fault (List (Key × Location)) := do
  let made ← (g.tasks.filter (·.invoke)).mapM fun t => do
    return (← g.nodeAt t.node).outputs.map (·, t.location)
  return g.outputs.map (fun o => (o.key, o.location)) ++ made.flatten

def wantedChecked (g : Graph) (queue : List (Key × Location)) (seen : List Key) :
    Except Fault (List (Key × Location)) :=
  match queue with
  | [] => .ok []
  | (k, placed) :: rest =>
    if k ∈ seen then g.wantedChecked rest seen
    else match _found : g.providerOf k with
      | none => return (k, placed) :: (← g.wantedChecked rest (k :: seen))
      | some id => do
        let n ← g.nodeAt id
        return (k, placed) ::
          (← g.wantedChecked (rest ++ n.dependencies.map (·, n.location)) (k :: seen))
termination_by (unmarked g.providedKeys seen, queue.length)
decreasing_by
  · exact Prod.Lex.right _ (by simp)
  · rcases Nat.lt_or_eq_of_le (unmarked_cons_le g.providedKeys seen k) with lt | eq
    · exact Prod.Lex.left _ _ lt
    · rw [eq]
      exact Prod.Lex.right _ (by simp)
  · exact Prod.Lex.left _ _ (unmarked_cons_lt (mem_providedKeys _found) (by assumption))

/-- What coverage finds, from the keys that a checked walk has met. -/
def coverageChecked (g : Graph) : Except Fault (List Issue) := do
  let wanted ← g.wantedChecked (← g.demandsChecked) []
  let missing := wanted.filterMap fun (k, placed) =>
    if (g.providerOf k).isNone && !g.isFlowInput k then some ⟨placed, .missingProvider k⟩ else none
  let consumed := (wanted.map (·.1)).filter fun k => (g.providerOf k).isNone && g.isFlowInput k
  return g.unusedOutputs ++ missing ++ unusedAmong consumed g.inputs

theorem unmarked_path_lt {keys : List Key} {path : List CycleStep} {step : CycleStep}
    (mem : step.provides ∈ keys) (fresh : step.provides ∉ path.map (·.provides)) :
    unmarked keys ((path ++ [step]).map (·.provides)) < unmarked keys (path.map (·.provides)) := by
  have same : unmarked keys ((path ++ [step]).map (·.provides)) =
      unmarked keys (step.provides :: path.map (·.provides)) := by
    unfold unmarked
    congr 1
    funext x
    simp [or_comm]
  exact same ▸ unmarked_cons_lt mem fresh

/-- The node of a provider is looked up before anything else is asked of the key. -/
def searchChecked (g : Graph) (path : List CycleStep) (explored : List Key) :
    List Key → Except Fault (Except Cycle (List Key))
  | [] => .ok (.ok explored)
  | k :: ks =>
    match _found : g.providerOf k with
    | none => g.searchChecked path explored ks
    | some id =>
      match g.nodeAt id with
      | .error f => .error f
      | .ok n =>
        if k ∈ path.map (·.provides) then
          .ok (.error ⟨n.location, pathFrom path k ++ [⟨id, n.label, k⟩]⟩)
        else if k ∈ explored then g.searchChecked path explored ks
        else match g.searchChecked (path ++ [⟨id, n.label, k⟩]) explored n.dependencies with
          | .error f => .error f
          | .ok (.error cycle) => .ok (.error cycle)
          | .ok (.ok explored) => g.searchChecked path (k :: explored) ks
termination_by keys => (unmarked g.providedKeys (path.map (·.provides)), keys.length)
decreasing_by
  · exact Prod.Lex.right _ (by simp)
  · exact Prod.Lex.right _ (by simp)
  · exact Prod.Lex.left _ _ (unmarked_path_lt (mem_providedKeys _found) (by assumption))
  · exact Prod.Lex.right _ (by simp)

def findCycleChecked (g : Graph) : Except Fault (Option Cycle) := do
  match ← g.searchChecked [] [] g.searchStarts with
  | .ok _ => return none
  | .error cycle => return some cycle

/-- The walk over a graph of edges, each from a node to a node. -/
def walkChecked (g : Graph) (stack met done : List NodeId) :
    Except Fault (List NodeId × List NodeId) :=
  match stack with
  | [] => .ok (met, done)
  | id :: rest =>
    if _known : id ∈ met then
      g.walkChecked rest met (if id ∈ done then done else done ++ [id])
    else if _inside : id < g.nodes.length then
      g.walkChecked ((g.dependencyNodes id).filter (· ∉ id :: met) ++ id :: rest) (id :: met) done
    else .error (.missingNode id)
termination_by (unmarked (List.range g.nodes.length) met, stack.length)
decreasing_by
  · exact Prod.Lex.right _ (by simp)
  · exact Prod.Lex.left _ _ (unmarked_cons_lt (List.mem_range.mpr _inside) _known)

/-- An edge is entered between nodes that are there. -/
def edgesChecked (g : Graph) : Except Fault (List (NodeId × NodeId)) := do
  let rows ← (List.range g.nodes.length).mapM fun id => do
    let _ ← g.nodeAt id
    (g.dependencyNodes id).mapM fun dependency => do
      let _ ← g.nodeAt dependency
      return (id, dependency)
  return rows.flatten

def orderChecked (g : Graph) : Except Fault (List NodeId) := do
  let _ ← g.edgesChecked
  let (_, done) ← (List.range g.nodes.length).foldlM
    (fun (met, done) start => g.walkChecked [start] met done) ([], [])
  return done

/-! ## No check fails -/

variable {g : Graph}

theorem nodeAt_eq {id : NodeId} {n : Node} (placed : g.nodes[id]? = some n) :
    g.nodeAt id = .ok n := by
  rw [nodeAt, placed]

theorem InRange.node (inRange : g.InRange) {k : Key} {id : NodeId}
    (found : g.providerOf k = some id) : ∃ n, g.nodes[id]? = some n ∧
      g.dependenciesOf id = n.dependencies ∧ g.locationOf id = n.location ∧
        g.stepTo id k = ⟨id, n.label, k⟩ := by
  have placed := List.getElem?_eq_getElem (inRange.providerOf found)
  refine ⟨_, placed, ?_, ?_, ?_⟩
  · rw [dependenciesOf, placed]
  · rw [locationOf, placed]
  · rw [stepTo, labelOf, placed]

theorem mapM_ok {α β : Type} {f : α → Except Fault β} {h : α → β} (as : List α)
    (each : ∀ a ∈ as, f a = .ok (h a)) : as.mapM f = .ok (as.map h) := by
  induction as with
  | nil => rfl
  | cons a as ih =>
    obtain ⟨here, later⟩ := List.forall_mem_cons.mp each
    rw [List.mapM_cons, here, ih later]
    rfl

theorem demandsChecked_eq (inRange : g.InRange) : g.demandsChecked = .ok g.demands := by
  have made := mapM_ok
    (f := fun t => do return (← g.nodeAt t.node).outputs.map (·, t.location))
    (h := fun t => match g.nodes[t.node]? with
      | some n => n.outputs.map (·, t.location)
      | none => []) (g.tasks.filter (·.invoke)) fun t mem => by
    have placed := List.getElem?_eq_getElem (inRange.tasks t (List.mem_of_mem_filter mem))
    rw [nodeAt_eq placed, placed]
    rfl
  rw [demandsChecked, made, demands, List.flatMap_def]
  rfl

theorem wantedChecked_eq (inRange : g.InRange) (queue : List (Key × Location))
    (seen : List Key) : g.wantedChecked queue seen = .ok (g.wantedFrom queue seen) := by
  fun_induction wantedFrom g queue seen with
  | case1 => rw [wantedChecked]
  | case2 seen k placed rest known ih => rw [wantedChecked, if_pos known, ih]
  | case3 seen k placed rest new unprovided ih =>
    rw [wantedChecked, if_neg new]
    split
    · rw [ih]
      rfl
    · rename_i found
      rw [unprovided] at found
      cases found
  | case4 seen k placed rest new id found ih =>
    obtain ⟨n, node, dependencies, location, _⟩ := inRange.node found
    rw [dependencies, location] at ih ⊢
    rw [wantedChecked, if_neg new]
    split
    · rename_i unprovided
      rw [unprovided] at found
      cases found
    · rename_i id' found'
      rw [found, Option.some.injEq] at found'
      subst found'
      rw [nodeAt_eq node]
      show Except.bind (g.wantedChecked _ _) _ = _
      rw [ih]
      rfl

theorem searchChecked_of_provider (inRange : g.InRange) {path : List CycleStep}
    {explored ks : List Key} {k : Key} {id : NodeId} (found : g.providerOf k = some id) :
    g.searchChecked path explored (k :: ks) =
      if k ∈ path.map (·.provides) then
        .ok (.error ⟨g.locationOf id, pathFrom path k ++ [g.stepTo id k]⟩)
      else if k ∈ explored then g.searchChecked path explored ks
      else match g.searchChecked (path ++ [g.stepTo id k]) explored (g.dependenciesOf id) with
        | .error f => .error f
        | .ok (.error cycle) => .ok (.error cycle)
        | .ok (.ok explored) => g.searchChecked path (k :: explored) ks := by
  obtain ⟨n, node, dependencies, location, step⟩ := inRange.node found
  rw [searchChecked, dependencies, location, step]
  split
  · rename_i unprovided
    rw [unprovided] at found
    cases found
  · rename_i id' found'
    rw [found, Option.some.injEq] at found'
    subst found'
    rw [nodeAt_eq node]

theorem searchChecked_eq (inRange : g.InRange) (path : List CycleStep) (explored keys : List Key) :
    g.searchChecked path explored keys = .ok (g.search path explored keys) := by
  fun_induction search g path explored keys with
  | case1 path explored => rw [searchChecked]
  | case2 path explored k ks unprovided ih =>
    rw [searchChecked]
    split
    · exact ih
    · rename_i found
      rw [unprovided] at found
      cases found
  | case3 path explored k ks id found met =>
    rw [searchChecked_of_provider inRange found, if_pos met]
  | case4 path explored k ks id found new known ih =>
    rw [searchChecked_of_provider inRange found, if_neg new, if_pos known, ih]
  | case5 path explored k ks id found new unknown cycle inner ih =>
    rw [searchChecked_of_provider inRange found, if_neg new, if_neg unknown, ih, inner]
  | case6 path explored k ks id found new unknown explored₁ inner ih₁ ih₂ =>
    rw [searchChecked_of_provider inRange found, if_neg new, if_neg unknown, ih₁, inner]
    exact ih₂

theorem walkChecked_eq (inRange : g.InRange) (stack met done : List NodeId)
    (inside : ∀ id ∈ stack, id < g.nodes.length) :
    g.walkChecked stack met done = .ok (g.walk stack met done) := by
  fun_induction walk g stack met done with
  | case1 met done => rw [walkChecked]
  | case2 met done id rest known ih =>
    obtain ⟨here, later⟩ := List.forall_mem_cons.mp inside
    rw [walkChecked, dif_pos (known.resolve_right (Nat.not_le.mpr here))]
    exact ih later
  | case3 met done id rest unknown ih =>
    obtain ⟨new, inside'⟩ := not_or.mp unknown
    rw [walkChecked, dif_neg new, dif_pos (Nat.lt_of_not_le inside')]
    refine ih (List.forall_mem_append.mpr ⟨fun d mem => ?_, inside⟩)
    exact inRange.dependsOn (List.mem_of_mem_filter mem)

theorem edgesChecked_eq (inRange : g.InRange) : g.edgesChecked = .ok g.edges := by
  have node {id : NodeId} (lt : id < g.nodes.length) : ∃ n, g.nodeAt id = .ok n :=
    ⟨_, nodeAt_eq (List.getElem?_eq_getElem lt)⟩
  have rows := mapM_ok
    (f := fun id => do
      let _ ← g.nodeAt id
      (g.dependencyNodes id).mapM fun dependency => do
        let _ ← g.nodeAt dependency
        return (id, dependency))
    (h := fun id => (g.dependencyNodes id).map (id, ·)) (List.range g.nodes.length) fun id mem => by
      obtain ⟨n, here⟩ := node (List.mem_range.mp mem)
      rw [here]
      refine mapM_ok _ fun dependency depends => ?_
      obtain ⟨n', there⟩ := node (inRange.dependsOn depends)
      rw [there]
      rfl
  rw [edgesChecked, rows, edges, List.flatMap_def]
  rfl

theorem orderChecked_eq (inRange : g.InRange) : g.orderChecked = .ok g.order := by
  have walks (starts : List NodeId) (state : List NodeId × List NodeId)
      (inside : ∀ id ∈ starts, id < g.nodes.length) :
      starts.foldlM (fun (met, done) start => g.walkChecked [start] met done) state =
        .ok (starts.foldl (fun (met, done) start => g.walk [start] met done) state) := by
    induction starts generalizing state with
    | nil => rfl
    | cons start starts ih =>
      obtain ⟨here, later⟩ := List.forall_mem_cons.mp inside
      obtain ⟨met, done⟩ := state
      rw [List.foldlM_cons]
      show (g.walkChecked [start] met done >>= _) = _
      rw [walkChecked_eq inRange _ _ _ (List.forall_mem_singleton.mpr here)]
      exact ih _ later
  rw [orderChecked, edgesChecked_eq inRange]
  show (List.foldlM (m := Except Fault) _ _ _ >>= _) = _
  rw [walks _ _ fun id mem => List.mem_range.mp mem]
  rfl

theorem coverageChecked_eq (inRange : g.InRange) :
    g.coverageChecked = .ok g.coverageIssues := by
  rw [coverageChecked, demandsChecked_eq inRange]
  show (g.wantedChecked g.demands [] >>= _) = _
  rw [wantedChecked_eq inRange]
  rfl

theorem findCycleChecked_eq (inRange : g.InRange) : g.findCycleChecked = .ok g.findCycle := by
  rw [findCycleChecked, searchChecked_eq inRange, findCycle]
  show (match g.search [] [] g.searchStarts with | .ok _ => _ | .error cycle => _) = _
  cases g.search [] [] g.searchStarts <;> rfl

end Graph

/-- Compiling, with every step checked. -/
def Spec.compileChecked (s : Spec) : Except Rejection Plan := do
  let d ← s.draft.mapError .fault
  let coverage ← d.graph.coverageChecked.mapError .fault
  let cycle ← d.graph.findCycleChecked.mapError .fault
  match d.issues ++ coverage ++ cycle.toList.map Cycle.issue with
  | [] =>
    let schedule ← d.graph.tabulate.mapError .fault
    let order ← d.graph.orderChecked.mapError .fault
    return ⟨d.graph, schedule, order⟩
  | found => throw (.issues found)

theorem Spec.compileChecked_eq (s : Spec) : s.compileChecked = s.compile := by
  unfold compileChecked compile
  cases drafted : s.draft with
  | error f => rfl
  | ok d =>
    have inRange := (draft_kept drafted).inRange
    show (d.graph.coverageChecked.mapError Rejection.fault >>= _) = _
    rw [Graph.coverageChecked_eq inRange]
    show (d.graph.findCycleChecked.mapError Rejection.fault >>= _) = _
    rw [Graph.findCycleChecked_eq inRange, Graph.tabulate_eq inRange,
      Graph.orderChecked_eq inRange]
    show (match d.allIssues with | [] => _ | found => _) =
      match d.allIssues with | [] => _ | found => _
    cases d.allIssues <;> rfl

end KeyFlow
