import KeyFlow.Proofs.Graph.Clean
import KeyFlow.Proofs.Graph.Repeats

/-!
What the graph of a description holds, whatever is wrong with the description. The sound
declarations are its tasks, in order; the nodes are those of the tasks and tell who provides a key,
who receives it, and which keys are listed by more than one.
-/

namespace KeyFlow

instance (t : TaskDecl) : Decidable t.WellDeclared := decidable_of_iff _ t.issues_eq_nil

/-- The task is the declaration at this position. -/
structure Task.Describes (task : Task) (ordinal : Nat) (t : TaskDecl) : Prop where
  name : task.name = t.title
  ordinal : task.ordinal = ordinal
  location : task.location = t.location
  inputs : task.inputs = t.signature.inputs
  outputs : task.outputs = t.signature.outputs
  wantsContext : task.wantsContext = t.signature.wantsContext
  hasError : task.hasError = t.signature.hasError
  fallback : task.fallback = t.fallback
  invoke : task.invoke = t.invoke
  gate : task.gate.map (fun g => (g.location, g.inputs)) =
    t.predicate.map fun p => (p.location, p.signature.inputs)

namespace Graph

/-- The task with this index has its node, and its predicate the one behind that. -/
structure Seated (g : Graph) (i : Nat) (task : Task) : Prop where
  node : ∃ n, g.nodes[task.node]? = some n ∧ n.kind = .task i ∧ n.location = task.location ∧
    n.dependencies = task.inputs ++ (task.gate.map (·.sentinel)).toList ∧
    n.outputs = if task.invoke then [.finished task.ordinal] else task.outputs
  gate : ∀ gate, task.gate = some gate →
    gate.node = task.node + 1 ∧ gate.sentinel = .verdict task.ordinal ∧
    ∃ n, g.nodes[gate.node]? = some n ∧ n.kind = .predicate i ∧ n.location = gate.location ∧
      n.dependencies = gate.inputs ∧ n.outputs = [gate.sentinel]

/-- Tasks keep their nodes when more nodes come. -/
theorem Seated.more {g g' : Graph} {i : Nat} {task : Task}
    (seated : g.Seated i task) {more : List Node} (nodes : g'.nodes = g.nodes ++ more) :
    g'.Seated i task := by
  have kept {id : NodeId} {n : Node} (placed : g.nodes[id]? = some n) : g'.nodes[id]? = some n := by
    rw [nodes, List.getElem?_append_left (List.getElem?_eq_some_iff.mp placed).1, placed]
  obtain ⟨n, placed, node⟩ := seated.node
  refine ⟨⟨n, kept placed, node⟩, fun gate gated => ?_⟩
  obtain ⟨place, sentinel, m, placed', node'⟩ := seated.gate gate gated
  exact ⟨place, sentinel, m, kept placed', node'⟩

/-- The nodes of the tasks in order, each predicate's behind that of its task. -/
def kindsOf (tasks : List Task) : List NodeKind :=
  tasks.zipIdx.flatMap fun t => .task t.2 :: (t.1.gate.map fun _ => .predicate t.2).toList

/-- What is wrong with listing a key here that comes from elsewhere. -/
def reclaim (g : Graph) (location : Location) (k : Key) : Issue where
  location := location
  problem := match g.inputAt k with
    | some declared => .providesInput k declared
    | none => .duplicateProvider k ((g.providerOf k).elim g.location g.locationOf)

/-- Each output that a node lists without being its provider, in the order of nodes. -/
def duplicates (g : Graph) : List Issue :=
  g.nodes.zipIdx.flatMap fun n =>
    (n.1.outputs.filter fun k => g.providerOf k ≠ some n.2).map (g.reclaim n.1.location)

/-- Who receives a key if it is a requested one or not. -/
def receiversFrom (nodes : List Node) (requested : Bool) (k : Key) : List Receiver :=
  (if requested then [.flowOutput] else []) ++
    nodes.zipIdx.flatMap fun n => List.replicate (n.1.dependencies.count k) (.node n.2)

/-- A key that clashes is listed a second time. -/
theorem clash_eq (g : Graph) (location : Location) (k : Key) :
    g.clash location k = if g.Free k then none else some (g.reclaim location k) := by
  by_cases free : g.Free k
  · rw [if_pos free, clash_eq_none.mpr free]
  · rw [if_neg free, clash, reclaim]
    cases input : g.inputAt k with
    | some declared => rfl
    | none =>
      cases provider : g.providerOf k with
      | some earlier => rfl
      | none => exact absurd ⟨input, provider⟩ free

end Graph

namespace Draft

variable {s : Spec} {d : Draft}

/-- What was found wrong about keys with more than one provider. -/
def duplicates (d : Draft) : List Issue :=
  d.issues.filter fun i => i.problem.kind = .duplicateProvider

/-- Issues of other kinds. -/
theorem duplicates_report (d : Draft) {more : List Issue}
    (others : ∀ i ∈ more, i.problem.kind ≠ .duplicateProvider) :
    duplicates { d with issues := d.issues ++ more } = d.duplicates := by
  have noDuplicates : more.filter (fun i => decide (i.problem.kind = .duplicateProvider)) = [] :=
    List.filter_eq_nil_iff.mpr fun i mem kind => others i mem (of_decide_eq_true kind)
  rw [duplicates, List.filter_append, noDuplicates, List.append_nil, duplicates]

/-- Inputs, providers, receivers and clashes are those that the nodes make. -/
structure Accounted (s : Spec) (d : Draft) : Prop where
  inputs : d.graph.inputs = s.inputs
  outputs : d.graph.outputs = s.outputs
  inRange : d.graph.InRange
  /-- Each input where it is declared first. -/
  inputAt : ∀ k, d.graph.inputAt k = (s.inputs.find? (·.key = k)).map (·.location)
  /-- The first node that lists a key provides it, unless it is an input. -/
  providerOf : ∀ k, d.graph.providerOf k =
    if k ∈ s.inputs.map (·.key) then none else d.graph.nodes.findIdx? (k ∈ ·.outputs)
  receiversOf : ∀ k, d.graph.receiversOf k =
    Graph.receiversFrom d.graph.nodes (k ∈ s.outputs.map (·.key)) k
  duplicates : d.duplicates = d.graph.duplicates

/-- The draft after these declarations were entered, each with its position. -/
structure Represents (s : Spec) (entered : List (TaskDecl × Nat)) (d : Draft) : Prop
    extends Accounted s d where
  tasks : List.Forall₂ (fun task t => task.Describes t.2 t.1) d.graph.tasks entered
  kinds : d.graph.nodes.map (·.kind) = Graph.kindsOf d.graph.tasks
  seated : ∀ i task, d.graph.tasks[i]? = some task → d.graph.Seated i task

/-! ## One more node -/

theorem inputAt_eq_none (accounted : Accounted s d) (k : Key) :
    d.graph.inputAt k = none ↔ k ∉ s.inputs.map (·.key) := by
  rw [accounted.inputAt, Option.map_eq_none_iff, List.find?_eq_none]
  simp

/-- A key that a node lists is an input or has a provider. -/
theorem Accounted.taken (accounted : Accounted s d) {n : Node} (mem : n ∈ d.graph.nodes) {k : Key}
    (output : k ∈ n.outputs) : ¬ d.graph.Free k := by
  rintro ⟨input, provider⟩
  rw [accounted.providerOf, if_neg ((inputAt_eq_none accounted k).mp input),
    List.findIdx?_eq_none_iff] at provider
  exact absurd output (of_decide_eq_false (provider n mem))

theorem providerOf_withNode (d : Draft) (n : Node) (k : Key) :
    (d.withNode n).graph.providerOf k = (d.graph.providerOf k).or
      (if k ∈ n.outputs ∧ d.graph.Free k then some d.graph.nodes.length else none) := by
  have provided := Graph.providerOf_providing (g := d.graph) (k := k)
    (n.outputs.filter (d.graph.Free ·))
  simp only [List.mem_filter, decide_eq_true_eq] at provided
  exact provided

/-- A key that is taken keeps its provider. -/
theorem providerOf_withNode_of_taken (d : Draft) (n : Node) {k : Key} (taken : ¬ d.graph.Free k) :
    (d.withNode n).graph.providerOf k = d.graph.providerOf k := by
  rw [providerOf_withNode, if_neg fun h => taken h.2, Option.or_none]

theorem reclaim_withNode (inRange : d.graph.InRange) (n : Node) (location : Location) {k : Key}
    (taken : ¬ d.graph.Free k) :
    (d.withNode n).graph.reclaim location k = d.graph.reclaim location k := by
  have inputAt : (d.withNode n).graph.inputAt k = d.graph.inputAt k := rfl
  rw [Graph.reclaim, Graph.reclaim, inputAt, providerOf_withNode_of_taken d n taken]
  cases free : d.graph.inputAt k with
  | some declared => rfl
  | none =>
    obtain ⟨id, found⟩ := Option.ne_none_iff_exists'.mp fun unset => taken ⟨free, unset⟩
    have same : (d.withNode n).graph.locationOf id = d.graph.locationOf id := by
      have nodes : (d.withNode n).graph.nodes = d.graph.nodes ++ [n] := rfl
      have location : (d.withNode n).graph.location = d.graph.location := rfl
      rw [Graph.locationOf, Graph.locationOf, nodes, location,
        List.getElem?_append_left (inRange.providerOf found)]
    rw [found, Option.elim_some, Option.elim_some, same]

theorem receiversOf_withNode (d : Draft) (n : Node) (k : Key) :
    (d.withNode n).graph.receiversOf k = d.graph.receiversOf k ++
      List.replicate (n.dependencies.count k) (.node d.graph.nodes.length) := by
  have signed : ((n.dependencies.map (·, Receiver.node d.graph.nodes.length)).filter
      (·.1 == k)).map (·.2) =
        List.replicate (n.dependencies.count k) (.node d.graph.nodes.length) := by
    rw [List.filter_map, List.map_map, List.count_eq_length_filter, ← List.map_const']
    rfl
  rw [← signed]
  show ((d.graph.receivers ++ _).filter (·.1 == k)).map (·.2) = _
  rw [List.filter_append, List.map_append, Graph.receiversOf]

/-- The issues of a node that is entered are about the keys that it does not provide. -/
theorem clashes_eq (inRange : d.graph.InRange) (n : Node) :
    n.outputs.filterMap (d.graph.clash n.location) =
      (n.outputs.filter fun k =>
        (d.withNode n).graph.providerOf k ≠ some d.graph.nodes.length).map
          ((d.withNode n).graph.reclaim n.location) := by
  rw [← List.filterMap_eq_map, List.filterMap_filter]
  refine List.filterMap_congr fun k output => ?_
  rw [Graph.clash_eq]
  by_cases free : d.graph.Free k
  · simp [providerOf_withNode, free, free.2, output]
  · have other : d.graph.providerOf k ≠ some d.graph.nodes.length := fun found =>
      Nat.lt_irrefl _ (inRange.providerOf found)
    rw [providerOf_withNode_of_taken d n free]
    simp [free, other, reclaim_withNode inRange n n.location free]

theorem Accounted.duplicates_withNode (accounted : Accounted s d) (n : Node) :
    (d.withNode n).duplicates = (d.withNode n).graph.duplicates := by
  have own : (n.outputs.filterMap (d.graph.clash n.location)).filter
      (fun i => decide (i.problem.kind = .duplicateProvider)) =
        n.outputs.filterMap (d.graph.clash n.location) := by
    refine List.filter_eq_self.mpr fun i mem => ?_
    obtain ⟨k, _, clashes⟩ := List.mem_filterMap.mp mem
    obtain ⟨l, rfl | rfl⟩ := Graph.clash_cases clashes <;> rfl
  have before : d.graph.duplicates = d.graph.nodes.zipIdx.flatMap fun x =>
      (x.1.outputs.filter fun k => (d.withNode n).graph.providerOf k ≠ some x.2).map
        ((d.withNode n).graph.reclaim x.1.location) := by
    refine List.flatMap_congr fun x mem => ?_
    have taken {k : Key} (output : k ∈ x.1.outputs) : ¬ d.graph.Free k :=
      accounted.taken (List.fst_mem_of_mem_zipIdx mem) output
    have kept : (x.1.outputs.filter fun k => d.graph.providerOf k ≠ some x.2) =
        x.1.outputs.filter fun k => (d.withNode n).graph.providerOf k ≠ some x.2 :=
      List.filter_congr fun k output => by rw [providerOf_withNode_of_taken d n (taken output)]
    rw [kept]
    refine List.map_congr_left fun k listed => ?_
    exact (reclaim_withNode accounted.inRange n _ (taken (List.mem_of_mem_filter listed))).symm
  have issues : (d.withNode n).issues =
      d.issues ++ n.outputs.filterMap (d.graph.clash n.location) := rfl
  have nodes : (d.withNode n).graph.nodes = d.graph.nodes ++ [n] := rfl
  rw [Draft.duplicates, issues, List.filter_append, own, ← Draft.duplicates,
    accounted.duplicates, before, clashes_eq accounted.inRange n, Graph.duplicates, nodes,
    List.zipIdx_append, List.flatMap_append]
  simp

/-- A node that is entered is accounted for. -/
theorem Accounted.withNode (accounted : Accounted s d) (n : Node) : Accounted s (d.withNode n) where
  inputs := accounted.inputs
  outputs := accounted.outputs
  inRange := withNode_inRange accounted.inRange n
  inputAt := accounted.inputAt
  providerOf k := by
    have nodes : (d.withNode n).graph.nodes = d.graph.nodes ++ [n] := rfl
    have free : d.graph.Free k ↔ k ∉ s.inputs.map (·.key) ∧ d.graph.providerOf k = none :=
      and_congr_left' (inputAt_eq_none accounted k)
    simp only [providerOf_withNode, free, nodes, accounted.providerOf, List.findIdx?_append]
    by_cases input : k ∈ s.inputs.map (·.key)
    · simp [input]
    · rw [if_neg input, if_neg input]
      cases d.graph.nodes.findIdx? (k ∈ ·.outputs) with
      | some id => rfl
      | none => by_cases output : k ∈ n.outputs <;> simp [input, output]
  receiversOf k := by
    have nodes : (d.withNode n).graph.nodes = d.graph.nodes ++ [n] := rfl
    rw [receiversOf_withNode, accounted.receiversOf, nodes, Graph.receiversFrom,
      Graph.receiversFrom, List.zipIdx_append, List.flatMap_append, List.append_assoc]
    simp
  duplicates := accounted.duplicates_withNode n

theorem Accounted.withNodes (accounted : Accounted s d) (ns : List Node) :
    Accounted s (d.withNodes ns) := by
  induction ns generalizing d with
  | nil => exact accounted
  | cons n ns ih => exact ih (accounted.withNode n)

/-! ## One more task -/

theorem withNodes_tasks (d : Draft) (ns : List Node) :
    (d.withNodes ns).graph.tasks = d.graph.tasks := by
  induction ns generalizing d with
  | nil => rfl
  | cons n ns ih => exact ih (d.withNode n)

theorem withTask_nodes (d : Draft) (ordinal : Nat) (t : TaskDecl) :
    (d.withTask ordinal t).graph.nodes =
      d.graph.nodes ++ nodesOf d.graph.tasks.length ordinal t := d.withNodes_nodes _

theorem withTask_tasks (d : Draft) (ordinal : Nat) (t : TaskDecl) :
    (d.withTask ordinal t).graph.tasks =
      d.graph.tasks ++ [taskOf d.graph.nodes.length ordinal t] := by
  rw [← d.withNodes_tasks (nodesOf d.graph.tasks.length ordinal t)]
  rfl

theorem Accounted.withTask (accounted : Accounted s d) (ordinal : Nat) (t : TaskDecl) :
    Accounted s (d.withTask ordinal t) :=
  have nodes := accounted.withNodes (nodesOf d.graph.tasks.length ordinal t)
  { nodes with inRange := withTask_inRange accounted.inRange ordinal t }

theorem taskOf_describes (id ordinal : Nat) (t : TaskDecl) :
    (taskOf id ordinal t).Describes ordinal t := by
  constructor
  case gate =>
    rw [taskOf, Option.map_map]
    rfl
  all_goals rfl

/-- A task that is entered has its nodes at the end. -/
theorem taskOf_seated (d : Draft) (ordinal : Nat) (t : TaskDecl) :
    (d.withTask ordinal t).graph.Seated d.graph.tasks.length
      (taskOf d.graph.nodes.length ordinal t) := by
  have placed (j : Nat) : (d.withTask ordinal t).graph.nodes[d.graph.nodes.length + j]? =
      (nodesOf d.graph.tasks.length ordinal t)[j]? := by
    rw [withTask_nodes, List.getElem?_append_right (Nat.le_add_right _ j), Nat.add_sub_cancel_left]
  constructor
  case node =>
    refine ⟨taskNode d.graph.tasks.length ordinal t, placed 0, rfl, rfl, ?_, rfl⟩
    rw [taskNode, taskOf, Option.map_map]
    cases t.predicate <;> rfl
  case gate =>
    intro gate gated
    obtain ⟨p, predicate, rfl⟩ := Option.map_eq_some_iff.mp gated
    refine ⟨rfl, rfl, gateNode d.graph.tasks.length ordinal p, ?_, rfl, rfl, rfl, rfl⟩
    refine (placed 1).trans ?_
    rw [nodesOf, predicate]
    rfl

theorem Represents.withTask {entered : List (TaskDecl × Nat)} (represents : Represents s entered d)
    (ordinal : Nat) (t : TaskDecl) :
    Represents s (entered ++ [(t, ordinal)]) (d.withTask ordinal t) where
  toAccounted := represents.toAccounted.withTask ordinal t
  tasks := by
    rw [withTask_tasks]
    exact List.rel_append represents.tasks (.cons (taskOf_describes _ ordinal t) .nil)
  kinds := by
    rw [withTask_tasks, withTask_nodes, List.map_append, represents.kinds, Graph.kindsOf,
      Graph.kindsOf, List.zipIdx_append, List.flatMap_append]
    congr 1
    rw [nodesOf, taskOf]
    cases t.predicate <;> simp [taskNode, gateNode]
  seated := by
    intro i task placed
    rw [withTask_tasks, List.getElem?_append] at placed
    split at placed
    · exact (represents.seated i task placed).more (d.withTask_nodes ordinal t)
    · rename_i far
      rw [List.getElem?_singleton] at placed
      split at placed
      · cases placed
        rw [show i = d.graph.tasks.length by omega]
        exact d.taskOf_seated ordinal t
      · cases placed

/-- A declaration that is malformed leaves the graph as it is. -/
theorem Represents.report {entered : List (TaskDecl × Nat)} (represents : Represents s entered d)
    (t : TaskDecl) : Represents s entered { d with issues := d.issues ++ t.issues } where
  inputs := represents.inputs
  outputs := represents.outputs
  inRange := represents.inRange
  inputAt := represents.inputAt
  providerOf := represents.providerOf
  receiversOf := represents.receiversOf
  duplicates := by
    refine (duplicates_report d fun i mem kind => ?_).trans represents.duplicates
    have declaration := t.issues_ofDeclaration i mem
    rw [Issue.ofDeclaration, kind] at declaration
    cases declaration
  tasks := represents.tasks
  kinds := represents.kinds
  seated := represents.seated

/-- Of the declarations that are left just the sound ones are entered. -/
theorem Represents.addTasks {entered : List (TaskDecl × Nat)} {d' : Draft}
    (represents : Represents s entered d) {ordinal : Nat} {ts : List TaskDecl}
    (added : d.addTasks ordinal ts = .ok d') :
    Represents s (entered ++ (ts.zipIdx ordinal).filter (·.1.WellDeclared)) d' := by
  induction ts generalizing entered d ordinal with
  | nil =>
    cases added
    rwa [List.zipIdx_nil, List.filter_nil, List.append_nil]
  | cons t ts ih =>
    rw [Draft.addTasks] at added
    cases first : d.addTask ordinal t with
    | error f =>
      rw [first] at added
      cases added
    | ok d₁ =>
      rw [first] at added
      rw [List.zipIdx_cons]
      rcases addTask_cases represents.inRange first with ⟨malformed, rfl⟩ | ⟨declared, _, rfl⟩
      · rw [List.filter_cons_of_neg (by simpa using malformed)]
        exact ih (represents.report t) added
      · rw [List.filter_cons_of_pos (by simpa using declared), ← List.singleton_append,
          ← List.append_assoc]
        exact ih (represents.withTask ordinal t) added

/-! ## Inputs and outputs -/

/-- Where nothing but inputs and outputs is declared, nothing is said of providers. -/
structure Opens (s : Spec) (d : Draft) : Prop where
  inputs : d.graph.inputs = s.inputs
  outputs : d.graph.outputs = s.outputs
  tasks : d.graph.tasks = []
  nodes : d.graph.nodes = []
  providers : d.graph.providers = []
  duplicates : d.duplicates = []

theorem Opens.addInput (opens : Opens s d) (input : Declared) : Opens s (d.addInput input) := by
  unfold Draft.addInput
  split
  · refine { opens with duplicates := ?_ }
    rw [duplicates_report d (by simp [Problem.kind]), opens.duplicates]
  · exact ⟨opens.inputs, opens.outputs, opens.tasks, opens.nodes, opens.providers,
      opens.duplicates⟩

theorem Opens.addOutput (opens : Opens s d) (output : Declared) :
    Opens s (d.addOutput output) := by
  unfold Draft.addOutput
  split
  · refine { opens with duplicates := ?_ }
    rw [duplicates_report d (by simp [Problem.kind]), opens.duplicates]
  · exact ⟨opens.inputs, opens.outputs, opens.tasks, opens.nodes, opens.providers,
      opens.duplicates⟩

theorem Opens.declared (opens : Opens s d) (inputs outputs : List Declared) :
    Opens s (outputs.foldl Draft.addOutput (inputs.foldl Draft.addInput d)) := by
  have given : Opens s (inputs.foldl Draft.addInput d) :=
    List.foldlRecOn inputs Draft.addInput opens fun _ opens input _ => opens.addInput input
  exact List.foldlRecOn outputs Draft.addOutput given fun _ opens output _ =>
    opens.addOutput output

theorem inputAt_addInput (d : Draft) (input : Declared) (k : Key) :
    (d.addInput input).graph.inputAt k =
      (d.graph.inputAt k).or (if input.key = k then some input.location else none) := by
  unfold addInput
  split
  · rename_i declared taken
    by_cases same : input.key = k
    · rw [← same, taken, Option.some_or]
    · rw [if_neg same, Option.or_none]
  · rw [Graph.inputAt, List.lookup_append, ← Graph.inputAt]
    by_cases same : input.key = k
    · simp [same]
    · rw [if_neg same, lookup_eq_none.mpr (by simpa using Ne.symm same)]

/-- Each input is at its first declaration. -/
theorem inputAt_addInputs (d : Draft) (inputs : List Declared) (k : Key) :
    (inputs.foldl addInput d).graph.inputAt k =
      (d.graph.inputAt k).or ((inputs.find? (·.key = k)).map (·.location)) := by
  induction inputs generalizing d with
  | nil => exact (Option.or_none).symm
  | cons input inputs ih =>
    rw [List.foldl_cons, ih, inputAt_addInput, Option.or_assoc, List.find?_cons]
    by_cases same : input.key = k <;> simp [same]

theorem inputAt_addOutputs (d : Draft) (outputs : List Declared) (k : Key) :
    (outputs.foldl addOutput d).graph.inputAt k = d.graph.inputAt k :=
  (addOutputs_free outputs).2

theorem receiversOf_addOutput (d : Draft) (output : Declared) (k : Key) :
    (d.addOutput output).graph.receiversOf k = d.graph.receiversOf k ++
      if output.key = k ∧ .flowOutput ∉ d.graph.receiversOf k then [.flowOutput] else [] := by
  unfold addOutput
  split
  · rename_i taken
    rw [if_neg (by rintro ⟨rfl, free⟩; exact free taken), List.append_nil]
  · rename_i free
    show ((d.graph.receivers ++ [(output.key, Receiver.flowOutput)]).filter
      (·.1 == k)).map (·.2) = _
    rw [List.filter_append, List.map_append, ← Graph.receiversOf]
    by_cases same : output.key = k
    · subst same
      simp [free]
    · simp [same]

/-- Each output is requested once. -/
theorem receiversOf_addOutputs (d : Draft) (outputs : List Declared) (requested : List Key)
    (before : ∀ k, d.graph.receiversOf k = if k ∈ requested then [.flowOutput] else [])
    (k : Key) : (outputs.foldl addOutput d).graph.receiversOf k =
      if k ∈ requested ++ outputs.map (·.key) then [.flowOutput] else [] := by
  induction outputs generalizing d requested with
  | nil => simpa using before k
  | cons output outputs ih =>
    rw [List.foldl_cons, List.map_cons, List.append_cons]
    refine ih _ _ fun k => ?_
    rw [receiversOf_addOutput, before]
    by_cases known : k ∈ requested
    · simp [known]
    · by_cases same : output.key = k
      · simp [known, same]
      · simp [known, same, Ne.symm same]

end Draft

namespace Spec

variable {s : Spec} {d : Draft}

theorem opening_represents (s : Spec) : s.opening.Represents s [] := by
  have new : Draft.Opens s ⟨s.emptyGraph, []⟩ := ⟨rfl, rfl, rfl, rfl, rfl, rfl⟩
  have opens : Draft.Opens s s.opening := new.declared s.inputs s.outputs
  have account : Draft.Accounted s s.opening := by
    refine ⟨opens.inputs, opens.outputs, s.opening_kept.inRange, fun k => ?_, fun k => ?_,
      fun k => ?_, ?_⟩
    · rw [opening, Draft.inputAt_addOutputs, Draft.inputAt_addInputs]
      rfl
    · rw [Graph.providerOf, opens.providers, opens.nodes]
      exact (ite_self _).symm
    · have requested := Draft.receiversOf_addOutputs
        (s.inputs.foldl Draft.addInput ⟨s.emptyGraph, []⟩) s.outputs [] (fun k => by
          rw [Graph.receiversOf, Draft.addInputs_receivers]
          rfl) k
      rw [opens.nodes, Graph.receiversFrom, opening, requested]
      simp
    · rw [opens.duplicates, Graph.duplicates, opens.nodes]
      rfl
  refine ⟨account, ?_, ?_, ?_⟩
  · rw [opens.tasks]
    exact .nil
  · rw [opens.tasks, opens.nodes]
    rfl
  · intro i task placed
    rw [opens.tasks, List.getElem?_nil] at placed
    cases placed

/-- The sound declarations, each with its position. -/
def sound (s : Spec) : List (TaskDecl × Nat) := s.tasks.zipIdx.filter (·.1.WellDeclared)

theorem draft_represents (drafted : s.draft = .ok d) : d.Represents s s.sound :=
  s.opening_represents.addTasks drafted

/-- Where no declaration lists an output twice, the making of the graph ends in no fault. The tasks
of the graph are the sound declarations in order, and the nodes those of the tasks; the first node
that lists a key which is no input provides it, each other listing is one issue about a key that is
provided already, and a key is received by the flow, if it is requested, and then by the nodes that
depend on it. -/
theorem graph_is_faithful (s : Spec) (once : ∀ t ∈ s.tasks, t.signature.outputs.Nodup) :
    ∃ d, s.draft = .ok d ∧ d.Represents s s.sound := by
  cases drafted : s.draft with
  | ok d => exact ⟨d, rfl, draft_represents drafted⟩
  | error f =>
    obtain ⟨i, t, k, placed, _, twice, _⟩ := draft_faults_iff.mp ⟨f, drafted⟩
    have le := List.nodup_iff_count_le_one.mp (once t (List.mem_of_getElem? placed)) k
    omega

/-- A malformed task, a gated one, and one that lists the output of that and the input of the
flow. -/
def mixedSpec : Spec where
  name := "mixed"
  location := ⟨"flow", 1, 1⟩
  inputs := [⟨.named "in", ⟨"flow", 2, 1⟩⟩]
  outputs := [⟨.named "out", ⟨"flow", 3, 1⟩⟩]
  tasks := [
    { location := ⟨"flow", 4, 1⟩, signature := ⟨[.error], [.named "out"], false⟩ },
    { location := ⟨"flow", 5, 1⟩
      signature := ⟨[.named "in", .named "in"], [.named "out"], false⟩
      predicate := some ⟨⟨"flow", 6, 1⟩, ⟨[.named "in"], [.bool], false⟩⟩ },
    { location := ⟨"flow", 7, 1⟩, signature := ⟨[], [.named "out", .named "in"], false⟩ }]

theorem graph_is_faithful_mixed :
    (∀ t ∈ mixedSpec.tasks, t.signature.outputs.Nodup) ∧
      ∃ d, mixedSpec.draft = .ok d ∧ d.graph.tasks.map (·.ordinal) = [1, 2] ∧
        d.graph.nodes.map (·.kind) = [.task 0, .predicate 0, .task 1] ∧
        d.graph.providerOf (.named "out") = some 0 ∧
        d.graph.receiversOf (.named "in") = [.node 0, .node 0, .node 1] ∧
        d.duplicates = [
          ⟨⟨"flow", 7, 1⟩, .duplicateProvider (.named "out") ⟨"flow", 5, 1⟩⟩,
          ⟨⟨"flow", 7, 1⟩, .providesInput (.named "in") ⟨"flow", 2, 1⟩⟩] := by
  have once : ∀ t ∈ mixedSpec.tasks, t.signature.outputs.Nodup := by decide
  obtain ⟨d, drafted, represents⟩ := graph_is_faithful mixedSpec once
  have made : mixedSpec.draft = .ok _ := rfl
  rw [made, Except.ok.injEq] at drafted
  subst drafted
  refine ⟨once, _, rfl, rfl, represents.kinds, ?_, ?_, ?_⟩
  · rw [represents.providerOf]
    rfl
  · rw [represents.receiversOf]
    rfl
  · rw [represents.duplicates]
    rfl

end Spec

end KeyFlow
