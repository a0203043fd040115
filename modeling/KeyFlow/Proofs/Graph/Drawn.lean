import KeyFlow.Proofs.Graph.Draft

/-!
The graph of a description in which nothing is wrong. Each task has its node, followed by that of
its predicate, and stands in the graph where it stands in the description.
-/

namespace KeyFlow

/-- The nodes of the task at this position. -/
def taskNodes (i : Nat) (t : TaskDecl) : List Node :=
  Draft.taskNode i i t :: (t.predicate.map (Draft.gateNode i i)).toList

/-- The nodes of tasks of which the first one has this position. -/
def nodesFrom : Nat → List TaskDecl → List Node
  | _, [] => []
  | i, t :: ts => taskNodes i t ++ nodesFrom (i + 1) ts

namespace Graph

/-- The graph with one more task. -/
def withTask (g : Graph) (t : TaskDecl) : Graph :=
  { g.withNodes (taskNodes g.tasks.length t) with
    tasks := g.tasks ++ [Draft.taskOf g.nodes.length g.tasks.length t] }

def withTasks (g : Graph) (ts : List TaskDecl) : Graph := ts.foldl withTask g

/-- What more nodes leave as it was. -/
theorem withNodes_frame (g : Graph) (ns : List Node) :
    (g.withNodes ns).tasks = g.tasks ∧ (g.withNodes ns).inputs = g.inputs ∧
      (g.withNodes ns).outputs = g.outputs ∧ (g.withNodes ns).flowInputs = g.flowInputs ∧
      (g.withNodes ns).nodes = g.nodes ++ ns := by
  induction ns generalizing g with
  | nil => simp [withNodes]
  | cons n ns ih =>
    obtain ⟨tasks, inputs, outputs, flowInputs, nodes⟩ := ih (g.withNode n)
    exact ⟨tasks, inputs, outputs, flowInputs, by rw [withNodes, List.foldl_cons, ← withNodes,
      nodes, withNode, List.append_assoc, List.singleton_append]⟩

theorem Laid.withNodes {g : Graph} (laid : g.Laid) (ns : List Node) : (g.withNodes ns).Laid := by
  induction ns generalizing g with
  | nil => exact laid
  | cons n ns ih => exact ih (laid.withNode n)

theorem Laid.withTasks {g : Graph} (laid : g.Laid) (ts : List TaskDecl) :
    (g.withTasks ts).Laid := by
  induction ts generalizing g with
  | nil => exact laid
  | cons t ts ih =>
    have more := laid.withNodes (taskNodes g.tasks.length t)
    exact ih (g := g.withTask t) ⟨more.providers, more.receivers⟩

theorem withTask_tasks_length (g : Graph) (t : TaskDecl) :
    (g.withTask t).tasks.length = g.tasks.length + 1 := List.length_append

theorem withTask_nodes (g : Graph) (t : TaskDecl) :
    (g.withTask t).nodes = g.nodes ++ taskNodes g.tasks.length t :=
  (g.withNodes_frame _).2.2.2.2

theorem withTasks_frame (g : Graph) (ts : List TaskDecl) :
    (g.withTasks ts).inputs = g.inputs ∧ (g.withTasks ts).outputs = g.outputs ∧
      (g.withTasks ts).flowInputs = g.flowInputs ∧
      (g.withTasks ts).nodes = g.nodes ++ nodesFrom g.tasks.length ts := by
  induction ts generalizing g with
  | nil => simp [withTasks, nodesFrom]
  | cons t ts ih =>
    obtain ⟨inputs, outputs, flowInputs, nodes⟩ := ih (g.withTask t)
    obtain ⟨_, inputs', outputs', flowInputs', _⟩ := g.withNodes_frame (taskNodes g.tasks.length t)
    refine ⟨inputs.trans inputs', outputs.trans outputs', flowInputs.trans flowInputs', ?_⟩
    rw [withTasks, List.foldl_cons, ← withTasks, nodes, withTask_nodes, withTask_tasks_length,
      nodesFrom, List.append_assoc]

theorem withTasks_tasks (g : Graph) (ts : List TaskDecl) :
    ∃ more, (g.withTasks ts).tasks = g.tasks ++ more ∧ ∀ i, more[i]? = ts[i]?.map
      (Draft.taskOf (g.nodes.length + (nodesFrom g.tasks.length (ts.take i)).length)
        (g.tasks.length + i)) := by
  induction ts generalizing g with
  | nil => exact ⟨[], by simp [withTasks], by simp⟩
  | cons t ts ih =>
    obtain ⟨more, tasks, placed⟩ := ih (g.withTask t)
    refine ⟨Draft.taskOf g.nodes.length g.tasks.length t :: more, ?_, fun i => ?_⟩
    · rw [withTasks, List.foldl_cons, ← withTasks, tasks, withTask, List.append_assoc,
        List.singleton_append]
    · cases i with
      | zero => simp [nodesFrom]
      | succ i =>
        rw [List.getElem?_cons_succ, placed, List.getElem?_cons_succ, withTask_tasks_length,
          withTask_nodes, List.take_succ_cons, nodesFrom, List.length_append, List.length_append,
          Nat.add_assoc, Nat.add_assoc, Nat.add_comm 1 i]

end Graph

namespace Draft

/-! ## Tasks -/

theorem enter_eq (d : Draft) (ordinal : Nat) (t : TaskDecl) :
    d.enter ordinal t =
      (d.addNodes (taskNode d.graph.tasks.length ordinal t ::
        (t.predicate.map (gateNode d.graph.tasks.length ordinal)).toList)).map fun d' =>
          { d' with graph := { d'.graph with
            tasks := d'.graph.tasks ++ [taskOf d.graph.nodes.length ordinal t] } } := by
  rw [enter, addNodes]
  cases d.addNode (taskNode d.graph.tasks.length ordinal t) with
  | error f => rfl
  | ok d₁ =>
    cases t.predicate with
    | none => rfl
    | some p =>
      show Except.bind (d₁.addNode _) _ = Except.map _ (Except.bind (d₁.addNode _) _)
      cases d₁.addNode (gateNode d.graph.tasks.length ordinal p) <;> rfl

theorem enter_clean {d d' : Draft} {t : TaskDecl} :
    (d.enter d.graph.tasks.length t = .ok d' ∧ d'.issues = []) ↔
      d.issues = [] ∧ d.graph.FreshNodes (taskNodes d.graph.tasks.length t) ∧
        d' = { d with graph := d.graph.withTask t } := by
  have tasks := (d.graph.withNodes_frame (taskNodes d.graph.tasks.length t)).1
  rw [enter_eq, ← taskNodes]
  constructor
  · rintro ⟨h, clean⟩
    cases added : d.addNodes (taskNodes d.graph.tasks.length t) with
    | error f =>
      rw [added] at h
      cases h
    | ok d₁ =>
      rw [added] at h
      cases h
      obtain ⟨issues, fresh, rfl⟩ := addNodes_clean.mp ⟨added, clean⟩
      refine ⟨issues, fresh, ?_⟩
      simp only [tasks, Graph.withTask]
  · rintro ⟨issues, fresh, rfl⟩
    obtain ⟨added, clean⟩ := addNodes_clean.mpr ⟨issues, fresh, rfl⟩
    rw [added]
    refine ⟨?_, clean⟩
    simp only [Except.map, tasks, Graph.withTask]

theorem addTask_clean {d d' : Draft} {t : TaskDecl} :
    (d.addTask d.graph.tasks.length t = .ok d' ∧ d'.issues = []) ↔
      d.issues = [] ∧ t.WellDeclared ∧ d.graph.FreshNodes (taskNodes d.graph.tasks.length t) ∧
        d' = { d with graph := d.graph.withTask t } := by
  rw [addTask, ← t.issues_eq_nil]
  split
  · rename_i sound
    rw [enter_clean]
    constructor
    · rintro ⟨issues, rest⟩
      exact ⟨issues, sound, rest⟩
    · rintro ⟨issues, _, rest⟩
      exact ⟨issues, rest⟩
  · rename_i unsound
    constructor
    · rintro ⟨h, clean⟩
      cases h
      exact absurd (List.append_eq_nil_iff.mp clean).2 unsound
    · rintro ⟨_, sound, _⟩
      exact absurd sound unsound

/-- Issues stay. -/
theorem issues_of_addTasks {d d' : Draft} {ordinal : Nat} {ts : List TaskDecl}
    (h : d.addTasks ordinal ts = .ok d') (clean : d'.issues = []) : d.issues = [] := by
  induction ts generalizing d ordinal with
  | nil =>
    cases h
    exact clean
  | cons t ts ih =>
    rw [addTasks] at h
    cases added : d.addTask ordinal t with
    | error f =>
      rw [added] at h
      cases h
    | ok d₁ =>
      rw [added] at h
      have clean₁ := ih h
      rw [addTask] at added
      split at added
      · rw [enter_eq] at added
        cases entered : d.addNodes (taskNode d.graph.tasks.length ordinal t ::
            (t.predicate.map (gateNode d.graph.tasks.length ordinal)).toList) with
        | error f =>
          rw [entered] at added
          cases added
        | ok d₂ =>
          rw [entered] at added
          cases added
          exact (addNodes_clean.mp ⟨entered, clean₁⟩).1
      · cases added
        exact (List.append_eq_nil_iff.mp clean₁).1

theorem addTasks_clean (d d' : Draft) (ts : List TaskDecl) :
    (d.addTasks d.graph.tasks.length ts = .ok d' ∧ d'.issues = []) ↔
      d.issues = [] ∧ (∀ t ∈ ts, t.WellDeclared) ∧
        d.graph.FreshNodes (nodesFrom d.graph.tasks.length ts) ∧
        d' = { d with graph := d.graph.withTasks ts } := by
  induction ts generalizing d with
  | nil =>
    constructor
    · rintro ⟨h, clean⟩
      cases h
      exact ⟨clean, by simp, trivial, rfl⟩
    · rintro ⟨clean, _, _, rfl⟩
      exact ⟨rfl, clean⟩
  | cons t ts ih =>
    have later : (d.graph.withTask t).FreshNodes (nodesFrom (d.graph.tasks.length + 1) ts) ↔
        (d.graph.withNodes (taskNodes d.graph.tasks.length t)).FreshNodes
          (nodesFrom (d.graph.tasks.length + 1) ts) := by
      apply Graph.freshNodes_congr <;> rfl
    have ih := ih { d with graph := d.graph.withTask t }
    rw [Graph.withTask_tasks_length] at ih
    rw [addTasks, nodesFrom, Graph.freshNodes_append, ← later, List.forall_mem_cons]
    constructor
    · rintro ⟨h, clean⟩
      cases added : d.addTask d.graph.tasks.length t with
      | error f =>
        rw [added] at h
        cases h
      | ok d₁ =>
        rw [added] at h
        have clean₁ := issues_of_addTasks h clean
        obtain ⟨issues, sound, fresh, rfl⟩ := addTask_clean.mp ⟨added, clean₁⟩
        obtain ⟨_, sounds, freshes, eq⟩ := ih.mp ⟨h, clean⟩
        exact ⟨issues, ⟨sound, sounds⟩, ⟨fresh, freshes⟩, eq⟩
    · rintro ⟨clean, ⟨sound, sounds⟩, ⟨fresh, freshes⟩, eq⟩
      obtain ⟨added, clean₁⟩ := addTask_clean.mpr ⟨clean, sound, fresh, rfl⟩
      rw [added]
      exact ih.mpr ⟨clean₁, sounds, freshes, eq⟩

end Draft

end KeyFlow
