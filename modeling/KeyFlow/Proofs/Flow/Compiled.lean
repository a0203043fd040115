import KeyFlow.Proofs.Flow.Evaluation
import KeyFlow.Proofs.Graph.Scheduled

/-!
Flows that were built. Every node of the graph stands for a task with a body or for a predicate with
a check. Those that are in use get jobs, and whatever such a node waits for is an input of the flow
or provided by another node with a job.
-/

namespace KeyFlow

theorem filterMap_getElem? {α β : Type} {g : α → Option β} {xs : List α}
    (all : ∀ x ∈ xs, (g x).isSome = true) (i : Nat) : (xs.filterMap g)[i]? = xs[i]?.bind g := by
  induction xs generalizing i with
  | nil => rfl
  | cons x xs ih =>
    obtain ⟨here, later⟩ := List.forall_mem_cons.mp all
    obtain ⟨y, found⟩ := Option.isSome_iff_exists.mp here
    rw [List.filterMap_cons_some found]
    cases i with
    | zero => exact found.symm
    | succ i => exact ih later i

/-- The running part is the one that the task was registered with, and it has what its descriptor
says: a check for a predicate, and one value to stand in for each output. -/
structure TaskWork.Fits (w : TaskWork) (t : FlowTask) (d : Task) : Prop where
  body : t.body = some w.body
  check : w.check = t.predicate.bind (·.check)
  gated : w.check.isSome = d.gate.isSome
  stands : w.fallback.isSome = d.fallback.isSome
  values : ∀ values, w.fallback = some values →
    values.length = d.outputs.length ∧ t.fallback = some (d.outputs.zip values)

namespace FlowTask

theorem issues_eq_nil_iff (t : FlowTask) : t.issues = [] ↔
    t.body.isSome = true ∧ ∀ p, t.predicate = some p → p.check.isSome = true := by
  obtain ⟨name, location, signature, body, predicate, fallback, invoke⟩ := t
  rcases predicate with _ | ⟨placed, params, _ | check⟩ <;> cases body <;> simp [issues]

/-- Where nothing is missing, every task has a running part in its own place. -/
theorem works_at {tasks : List FlowTask} (fine : ∀ t ∈ tasks, t.issues = []) (i : Nat) :
    (tasks.filterMap work?)[i]? = tasks[i]?.bind work? := by
  refine filterMap_getElem? (fun t mem => ?_) i
  rw [work?, Option.isSome_map]
  exact (t.issues_eq_nil_iff.mp (fine t mem)).1

theorem work_fits {t : FlowTask} (declared : t.decl.WellDeclared) (fine : t.issues = [])
    (id i : Nat) : ∃ w, t.work? = some w ∧ w.Fits t (Draft.taskOf id i t.decl) := by
  obtain ⟨bodied, checked⟩ := t.issues_eq_nil_iff.mp fine
  obtain ⟨body, found⟩ := Option.isSome_iff_exists.mp bodied
  refine ⟨⟨body, t.predicate.bind (·.check), t.fallback.map fun values => values.map (·.2)⟩,
    by rw [work?, found]; rfl, found, rfl, ?_, ?_, ?_⟩
  · show _ = ((t.predicate.map FlowPredicate.decl).map _).isSome
    rw [Option.isSome_map, Option.isSome_map]
    cases predicate : t.predicate with
    | none => rfl
    | some p => exact checked p predicate
  · show _ = (t.fallback.map _).isSome
    rw [Option.isSome_map, Option.isSome_map]
  · intro values given
    obtain ⟨pairs, fallback, rfl⟩ := Option.map_eq_some_iff.mp given
    have keys : pairs.map (·.1) = t.signature.outputs :=
      (declared.fallback _ (by rw [decl, fallback]; rfl)).2
    show _ = t.signature.outputs.length ∧ t.fallback = some (t.signature.outputs.zip _)
    rw [← keys, fallback, List.length_map, List.length_map]
    exact ⟨rfl, congrArg some (List.zip_of_prod rfl rfl)⟩

end FlowTask

/-- A flow that came out of a description. -/
structure Compiled (s : FlowSpec) (f : Flow) : Prop where
  plan : f.plan = s.spec.plan
  formed : s.spec.WellFormed
  bodies : ∀ t ∈ s.tasks, t.issues = []
  works : f.works = s.tasks.filterMap FlowTask.work?

namespace Flow

variable {f : Flow}

/-- What the jobs of a flow wait for, in the order in which they are taken in. -/
def jobDeps (f : Flow) : List (List Nat) :=
  f.plan.enqueueOrder.map fun id => (f.plan.graph.dependencyNodes id).map f.plan.enqueueOrder.idxOf

def jobBodies (f : Flow) : List (JobBody FlowState) :=
  f.plan.enqueueOrder.filterMap fun id => (f.job? id).map Job.body

theorem jobDeps_at {j : Nat} {id : NodeId} (placed : f.plan.enqueueOrder[j]? = some id) :
    f.jobDeps[j]? = some ((f.plan.graph.dependencyNodes id).map f.plan.enqueueOrder.idxOf) := by
  rw [jobDeps, List.getElem?_map, placed]
  rfl

end Flow

/-- A unit of a flow that was built. -/
structure FlowUnit.Formed (u : FlowUnit) : Prop where
  once : u.task.outputs.Nodup
  fallback : ∀ values, u.work.fallback = some values → values.length = u.task.outputs.length
  checked : u.task.gate.isSome = true → u.work.check.isSome = true

theorem FlowUnit.Formed.zip_keys {u : FlowUnit} (formed : u.Formed) {values : List Value}
    (fallback : u.work.fallback = some values) :
    (u.task.outputs.zip values).map (·.1) = u.task.outputs :=
  List.map_fst_zip (Nat.le_of_eq (formed.fallback values fallback).symm)

namespace Compiled

variable {s : FlowSpec} {f : Flow}

theorem of_build (built : s.build = .ok f) : Compiled s f := by
  unfold FlowSpec.build at built
  split at built
  · cases built
  · cases built
  · rename_i p compiled fine
    cases built
    obtain ⟨formed, same⟩ := Spec.compile_eq_plan_iff.mp compiled
    rw [FlowSpec.issues, List.append_eq_nil_iff, List.flatMap_eq_nil_iff] at fine
    exact ⟨same, formed, fine.2, rfl⟩
  · cases built

theorem sourced (compiled : Compiled s f) : s.spec.Sourced := compiled.formed.sourced

theorem graph (compiled : Compiled s f) : f.plan.graph = s.spec.graph :=
  congrArg Plan.graph compiled.plan

/-- The nodes with a job are those in use. -/
theorem mem_enqueueOrder (compiled : Compiled s f) {id : NodeId} :
    id ∈ f.plan.enqueueOrder ↔ f.plan.graph.Reached id := by
  rw [compiled.graph, compiled.plan]
  exact compiled.formed.mem_enqueueOrder

theorem nodes (compiled : Compiled s f) : f.plan.graph.nodes = s.spec.nodes := by
  rw [compiled.graph, s.spec.graph_nodes]

theorem inputs (compiled : Compiled s f) : f.plan.graph.inputs = s.inputs := by
  rw [compiled.graph, s.spec.graph_inputs]
  rfl

theorem outputs (compiled : Compiled s f) : f.plan.graph.outputs = s.outputs := by
  rw [compiled.graph, s.spec.graph_outputs]
  rfl

theorem work_fits (compiled : Compiled s f) {t : FlowTask} (mem : t ∈ s.tasks) (id i : Nat) :
    ∃ w, t.work? = some w ∧ w.Fits t (Draft.taskOf id i t.decl) :=
  t.work_fits (compiled.formed.tasks _ (List.mem_map_of_mem mem)) (compiled.bodies t mem) id i

/-- The unit of a task. -/
theorem unit_ok (compiled : Compiled s f) {i : Nat} {t : FlowTask} (placed : s.tasks[i]? = some t) :
    ∃ work, t.work? = some work ∧
      f.unit? i = some ⟨i, Draft.taskOf (s.spec.place i) i t.decl, work⟩ := by
  obtain ⟨w, works, _⟩ := compiled.work_fits (List.mem_of_getElem? placed) (s.spec.place i) i
  refine ⟨w, works, ?_⟩
  have task : f.plan.graph.tasks[i]? = some (Draft.taskOf (s.spec.place i) i t.decl) := by
    rw [compiled.graph, s.spec.graph_tasks, FlowSpec.spec, List.getElem?_map, placed]
    rfl
  have work : f.works[i]? = some w := by
    rw [compiled.works, FlowTask.works_at compiled.bodies, placed]
    exact works
  rw [Flow.unit?, task]
  show Option.map _ f.works[i]? = _
  rw [work]
  rfl

theorem unit_formed (compiled : Compiled s f) {i : Nat} {t : FlowTask}
    (placed : s.tasks[i]? = some t) {work : TaskWork} (works : t.work? = some work) :
    FlowUnit.Formed ⟨i, Draft.taskOf (s.spec.place i) i t.decl, work⟩ := by
  have mem := List.mem_of_getElem? placed
  obtain ⟨w, is, fits⟩ := compiled.work_fits mem (s.spec.place i) i
  cases works.symm.trans is
  refine ⟨?_, fun values fallback => (fits.values values fallback).1,
    fun gated => fits.gated.trans gated⟩
  exact compiled.formed.results t.decl (List.mem_map_of_mem mem)

/-! ## Nodes -/

/-- The node of a task. -/
structure IsTask (f : Flow) (id : NodeId) (u : FlowUnit) : Prop where
  body : (f.job? id).map Job.body = some (u.taskBody f.tell)
  attempt : ∀ marks, f.attempt marks id = u.evaluateTask marks
  inputs : ∀ k ∈ u.task.inputs, k ∈ f.plan.graph.dependenciesOf id
  verdict : ∀ gate, u.task.gate = some gate → gate.sentinel ∈ f.plan.graph.dependenciesOf id
  sentinel : ∀ gate, u.task.gate = some gate → gate.sentinel = .verdict u.index
  outputs : ∀ n, f.plan.graph.nodes[id]? = some n → (∀ k ∈ u.task.outputs, k ∈ n.outputs) ∧
    ∀ k ∈ n.outputs, k ∈ u.task.outputs ∨ u.task.outputs = [] ∧ k = .finished u.index

/-- The node of a predicate. -/
structure IsGate (f : Flow) (id : NodeId) (u : FlowUnit) (gate : Gate) : Prop where
  gated : u.task.gate = some gate
  body : (f.job? id).map Job.body = some (u.predicateBody f.tell)
  attempt : ∀ marks, f.attempt marks id = u.evaluatePredicate marks
  inputs : ∀ k ∈ gate.inputs, k ∈ f.plan.graph.dependenciesOf id
  outputs : ∀ n, f.plan.graph.nodes[id]? = some n → n.outputs = [gate.sentinel]

section nodes

variable {id : NodeId} {i : Nat} {t : FlowTask} {work : TaskWork}

theorem isTask (compiled : Compiled s f) (mem : t ∈ s.tasks)
    (unitFound : f.unit? i = some ⟨i, Draft.taskOf (s.spec.place i) i t.decl, work⟩)
    (placed : f.plan.graph.nodes[id]? = some (Draft.taskNode i i t.decl)) :
    IsTask f id ⟨i, Draft.taskOf (s.spec.place i) i t.decl, work⟩ := by
  have listed : t.decl ∈ s.spec.tasks := List.mem_map_of_mem mem
  have dependencies : f.plan.graph.dependenciesOf id =
      (Draft.taskNode i i t.decl).dependencies := by
    rw [Graph.dependenciesOf, placed]
  constructor
  case body =>
    rw [Flow.job?, placed]
    simp only [Option.bind_some, Draft.taskNode, unitFound]
    rfl
  case attempt =>
    intro marks
    rw [Flow.attempt, placed]
    simp only [Option.map_some, Draft.taskNode, unitFound]
    rfl
  case inputs =>
    intro k input
    rw [dependencies]
    exact List.mem_append_left _ input
  case verdict =>
    intro gate gated
    rw [dependencies]
    obtain ⟨p, predicate, rfl⟩ := Option.map_eq_some_iff.mp gated
    refine List.mem_append_right _ ?_
    rw [if_pos (by rw [predicate]; rfl)]
    exact List.mem_singleton_self _
  case sentinel =>
    intro gate gated
    obtain ⟨p, _, rfl⟩ := Option.map_eq_some_iff.mp gated
    rfl
  case outputs =>
    intro n same
    rw [placed, Option.some.injEq] at same
    subst same
    simp only [Draft.taskNode]
    split
    · rename_i invoke
      have noOutputs : t.decl.signature.outputs = [] :=
        (compiled.formed.tasks t.decl listed).invoke.mpr invoke
      refine ⟨fun k output => ?_, fun k output => .inr ⟨noOutputs, List.mem_singleton.mp output⟩⟩
      rw [show (Draft.taskOf (s.spec.place i) i t.decl).outputs = [] from noOutputs] at output
      cases output
    · exact ⟨fun k output => output, fun k output => .inl output⟩

theorem isGate {p : PredicateDecl} (gated : t.decl.predicate = some p)
    (unitFound : f.unit? i = some ⟨i, Draft.taskOf (s.spec.place i) i t.decl, work⟩)
    (placed : f.plan.graph.nodes[id]? = some (Draft.gateNode i i p)) :
    IsGate f id ⟨i, Draft.taskOf (s.spec.place i) i t.decl, work⟩
      (Draft.gateOf i (s.spec.place i) p) := by
  constructor
  case gated =>
    show t.decl.predicate.map _ = _
    rw [gated]
    rfl
  case body =>
    rw [Flow.job?, placed]
    simp only [Option.bind_some, Draft.gateNode, unitFound]
    rfl
  case attempt =>
    intro marks
    rw [Flow.attempt, placed]
    simp only [Option.map_some, Draft.gateNode, unitFound]
    rfl
  case inputs =>
    intro k input
    rw [Graph.dependenciesOf, placed]
    exact input
  case outputs =>
    intro n same
    rw [placed, Option.some.injEq] at same
    rw [← same]
    rfl

end nodes

/-- A unit is that of a declared task. -/
theorem of_unit (compiled : Compiled s f) {i : Nat} {u : FlowUnit} (found : f.unit? i = some u) :
    ∃ t work, s.tasks[i]? = some t ∧ t.work? = some work ∧
      u = ⟨i, Draft.taskOf (s.spec.place i) i t.decl, work⟩ := by
  have declared : i < s.tasks.length := by
    by_contra beyond
    have task : f.plan.graph.tasks[i]? = none := by
      rw [compiled.graph, s.spec.graph_tasks, FlowSpec.spec, List.getElem?_map,
        List.getElem?_eq_none (Nat.le_of_not_lt beyond)]
      rfl
    rw [Flow.unit?, task] at found
    cases found
  obtain ⟨work, works, unitFound⟩ := compiled.unit_ok (List.getElem?_eq_getElem declared)
  rw [found, Option.some.injEq] at unitFound
  exact ⟨_, work, List.getElem?_eq_getElem declared, works, unitFound⟩

theorem formed_of_unit (compiled : Compiled s f) {i : Nat} {u : FlowUnit}
    (found : f.unit? i = some u) : u.Formed := by
  obtain ⟨t, work, placed, works, rfl⟩ := compiled.of_unit found
  exact compiled.unit_formed placed works

/-- A unit has a node for its task, and one for its predicate if it has one. -/
theorem nodes_of_unit (compiled : Compiled s f) {i : Nat} {u : FlowUnit}
    (found : f.unit? i = some u) : IsTask f u.task.node u ∧
      ∀ gate, u.task.gate = some gate → IsGate f gate.node u gate := by
  obtain ⟨t, work, placed, works, rfl⟩ := compiled.of_unit found
  have listed : s.spec.tasks[i]? = some t.decl := by
    rw [FlowSpec.spec, List.getElem?_map, placed]
    rfl
  refine ⟨compiled.isTask (List.mem_of_getElem? placed) found ?_, fun gate gated => ?_⟩
  · rw [compiled.nodes]
    exact Spec.node_task listed
  · obtain ⟨p, predicate, rfl⟩ := Option.map_eq_some_iff.mp gated
    refine isGate predicate found ?_
    rw [compiled.nodes]
    exact Spec.node_gate listed predicate

theorem kinds_of_unit (compiled : Compiled s f) {i : Nat} {u : FlowUnit}
    (found : f.unit? i = some u) :
    u.index = i ∧
    (f.plan.graph.nodes[u.task.node]?).map Node.kind = some (.task i) ∧
    ∀ gate, u.task.gate = some gate →
      (f.plan.graph.nodes[gate.node]?).map Node.kind = some (.predicate i) := by
  obtain ⟨t, work, placed, works, rfl⟩ := compiled.of_unit found
  have listed : s.spec.tasks[i]? = some t.decl := by
    rw [FlowSpec.spec, List.getElem?_map, placed]
    rfl
  refine ⟨rfl, ?_, fun gate gated => ?_⟩
  · rw [compiled.nodes]
    exact congrArg (Option.map Node.kind) (Spec.node_task listed)
  · obtain ⟨p, predicate, rfl⟩ := Option.map_eq_some_iff.mp gated
    rw [compiled.nodes]
    exact congrArg (Option.map Node.kind) (Spec.node_gate listed predicate)

theorem node_of_unit (compiled : Compiled s f) {i : Nat} {u : FlowUnit}
    (found : f.unit? i = some u) :
    ∃ n, f.plan.graph.nodes[u.task.node]? = some n := by
  obtain ⟨n, placed, _⟩ := Option.map_eq_some_iff.mp (compiled.kinds_of_unit found).2.1
  exact ⟨n, placed⟩

theorem gate_of_unit (compiled : Compiled s f) {i : Nat} {u : FlowUnit}
    (found : f.unit? i = some u)
    {gate : Gate} (gated : u.task.gate = some gate) :
    ∃ n, f.plan.graph.nodes[gate.node]? = some n := by
  obtain ⟨n, placed, _⟩ := Option.map_eq_some_iff.mp ((compiled.kinds_of_unit found).2.2 gate gated)
  exact ⟨n, placed⟩

/-- Every node is one of these. -/
theorem unit_cases (compiled : Compiled s f) {id : NodeId}
    (inRange : id < f.plan.graph.nodes.length) : ∃ i u, f.unit? i = some u ∧
      (id = u.task.node ∨ ∃ gate, u.task.gate = some gate ∧ id = gate.node) := by
  obtain ⟨n, placed⟩ : ∃ n, f.plan.graph.nodes[id]? = some n :=
    ⟨_, List.getElem?_eq_getElem inRange⟩
  have atSpec : s.spec.nodes[id]? = some n := by rw [← compiled.nodes, placed]
  obtain ⟨i, decl, declared, kinds⟩ := Spec.node_cases atSpec
  rw [FlowSpec.spec, List.getElem?_map, Option.map_eq_some_iff] at declared
  obtain ⟨t, task, rfl⟩ := declared
  obtain ⟨work, works, unitFound⟩ := compiled.unit_ok task
  refine ⟨i, _, unitFound, ?_⟩
  rcases kinds with ⟨rfl, _⟩ | ⟨p, gated, rfl, _⟩
  · exact .inl rfl
  · exact .inr ⟨_, congrArg (Option.map _) gated, rfl⟩

theorem source (compiled : Compiled s f) {id : NodeId} {k : Key} (mem : id ∈ f.plan.enqueueOrder)
    (waits : k ∈ f.plan.graph.dependenciesOf id) : k ∈ s.inputs.map (·.key) ∨
      ∃ d n, f.plan.graph.nodes[d]? = some n ∧ k ∈ n.outputs ∧
        d ∈ f.plan.graph.dependencyNodes id := by
  have reached := compiled.mem_enqueueOrder.mp mem
  rw [compiled.graph] at reached waits ⊢
  exact compiled.formed.source reached waits

theorem enqueueOrder_nodup (compiled : Compiled s f) : f.plan.enqueueOrder.Nodup := by
  rw [compiled.plan]
  exact compiled.formed.enqueueOrder_nodup

theorem sorted (compiled : Compiled s f) : f.plan.graph.Sorted f.plan.enqueueOrder := by
  rw [compiled.graph, compiled.plan]
  exact compiled.formed.enqueueOrder_sorted

theorem inRange (compiled : Compiled s f) {id : NodeId} (mem : id ∈ f.plan.enqueueOrder) :
    id < f.plan.graph.nodes.length := by
  have reached := compiled.mem_enqueueOrder.mp mem
  rw [compiled.graph] at reached ⊢
  exact compiled.sourced.inRange.reached reached

/-- The node at a place in the order. -/
theorem node_at (compiled : Compiled s f) {j : Nat} {id : NodeId}
    (placed : f.plan.enqueueOrder[j]? = some id) : ∃ n, f.plan.graph.nodes[id]? = some n :=
  ⟨_, List.getElem?_eq_getElem (compiled.inRange (List.mem_of_getElem? placed))⟩

/-- The node at a place in the order is that of a task or of its predicate. -/
theorem unit_at (compiled : Compiled s f) {j : Nat} {id : NodeId}
    (placed : f.plan.enqueueOrder[j]? = some id) : ∃ i u, f.unit? i = some u ∧
      (id = u.task.node ∨ ∃ gate, u.task.gate = some gate ∧ id = gate.node) :=
  compiled.unit_cases (compiled.inRange (List.mem_of_getElem? placed))

/-- A dependency has its place in the order, before whoever waits for it. -/
theorem dependency_at (compiled : Compiled s f) {j : Nat} {id d : NodeId}
    (placed : f.plan.enqueueOrder[j]? = some id)
    (dependency : d ∈ f.plan.graph.dependencyNodes id) :
    f.plan.enqueueOrder.idxOf d < j ∧
      f.plan.enqueueOrder[f.plan.enqueueOrder.idxOf d]? = some d := by
  obtain ⟨mem, lt⟩ := compiled.sorted.at placed dependency
  exact ⟨lt, List.getElem?_idxOf mem⟩

theorem place_of_node (compiled : Compiled s f) {id : NodeId}
    (reached : f.plan.graph.Reached id) :
    f.plan.enqueueOrder[f.plan.enqueueOrder.idxOf id]? = some id :=
  List.getElem?_idxOf (compiled.mem_enqueueOrder.mpr reached)

theorem idxOf_at (compiled : Compiled s f) {j : Nat} {id : NodeId}
    (placed : f.plan.enqueueOrder[j]? = some id) : f.plan.enqueueOrder.idxOf id = j := by
  obtain ⟨inRange, rfl⟩ := List.getElem?_eq_some_iff.mp placed
  exact compiled.enqueueOrder_nodup.idxOf_getElem j inRange

theorem provider_unique (compiled : Compiled s f) {a b : NodeId} {n n' : Node} {k : Key}
    (placed : f.plan.graph.nodes[a]? = some n) (output : k ∈ n.outputs)
    (placed' : f.plan.graph.nodes[b]? = some n') (output' : k ∈ n'.outputs) : a = b := by
  rw [compiled.nodes] at placed placed'
  have here := compiled.sourced.providerOf.mpr ⟨n, placed, output⟩
  have there := compiled.sourced.providerOf.mpr ⟨n', placed', output'⟩
  exact Option.some.inj (here.symm.trans there)

theorem output_not_input (compiled : Compiled s f) {a : NodeId} {n : Node} {k : Key}
    (placed : f.plan.graph.nodes[a]? = some n) (output : k ∈ n.outputs) :
    k ∉ s.inputs.map (·.key) := by
  rw [compiled.nodes] at placed
  exact compiled.sourced.apart k (List.mem_flatMap.mpr ⟨n, List.mem_of_getElem? placed, output⟩)

theorem jobBody_isSome (compiled : Compiled s f) {id : NodeId}
    (inRange : id < f.plan.graph.nodes.length) : ((f.job? id).map Job.body).isSome = true := by
  obtain ⟨i, u, found, rfl | ⟨gate, gated, rfl⟩⟩ := compiled.unit_cases inRange
  · rw [(compiled.nodes_of_unit found).1.body]
    rfl
  · rw [((compiled.nodes_of_unit found).2 gate gated).body]
    rfl

theorem jobBodies_at (compiled : Compiled s f) (j : Nat) : f.jobBodies[j]? =
    f.plan.enqueueOrder[j]?.bind fun id => (f.job? id).map Job.body :=
  filterMap_getElem? (fun _ mem => compiled.jobBody_isSome (compiled.inRange mem)) j

end Compiled

/-! ## A gated flow -/

/-- Waits a little, then goes on with the value of an input. -/
def TaskBody.after {α : Type} (millis : Nat) (k : Key) (next : Value → TaskBody α) : TaskBody α :=
  .call (.input k false) fun
    | .ok v => .sleep millis fun _ => next v
    | .error e => .done (.failed e.toError)

/-- The flow of `Spec.gatedSpec`, one job at a time. Its task passes its input on if that is one. -/
def FlowSpec.gated : FlowSpec where
  name := "gated"
  location := ⟨"flow", 1, 1⟩
  inputs := Spec.gatedSpec.inputs
  outputs := Spec.gatedSpec.outputs
  tasks := [{
    name := "work"
    location := ⟨"flow", 4, 1⟩
    signature := { params := [.context, .named "in"], results := [.named "out", .error] }
    body := some (.after 5 (.named "in") fun v =>
      .call (.provide (.named "out") v) fun _ => .done (.returned ()))
    predicate := some ⟨⟨"flow", 5, 1⟩, [.named "in"],
      some (.after 3 (.named "in") fun v => .done (.returned (v.int? == some 1)))⟩
    fallback := some [(.named "out", .untyped .null)] }]
  settings := { limit := Limit.ofNat 1 }
  emitter := .log

/-- What it is built to. -/
def Flow.gated : Flow where
  plan := Spec.gatedSpec.plan
  works := FlowSpec.gated.tasks.filterMap FlowTask.work?
  settings := FlowSpec.gated.settings
  emitter := FlowSpec.gated.emitter

theorem FlowSpec.gated_build : gated.build = .ok Flow.gated := by
  have compiled : gated.spec.compile = .ok Spec.gatedSpec.plan :=
    Spec.compile_eq_plan_iff.mpr ⟨Spec.gatedSpec_wellFormed, rfl⟩
  rw [build, compiled]
  rfl

theorem Flow.gated_reached {i : Nat} {u : FlowUnit} (found : gated.unit? i = some u) :
    gated.plan.graph.Reached u.task.node := by
  obtain ⟨n, node⟩ := (Compiled.of_build FlowSpec.gated_build).node_of_unit found
  exact Spec.gatedSpec_reached (List.getElem?_eq_some_iff.mp node).1

end KeyFlow
