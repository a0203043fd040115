import KeyFlow.Proofs.Flow.Committed
import KeyFlow.Proofs.Flow.Sequential

/-!
A body only starts when everything that it may read is there: the inputs that were supplied, and
what the jobs of its providers have committed. The body of a gated task only starts after its
predicate has said so.
-/

namespace KeyFlow

namespace FlowUnit

variable {tell : Happening → Sinks → Sinks} {u : FlowUnit} {w : World FlowState}

/-- The predicate of the task, if it has one, has decided that it runs. -/
def Cleared (u : FlowUnit) (s : Store Held) : Prop :=
  ∀ gate, u.task.gate = some gate → s.verdict? gate.sentinel = some .run

theorem Cleared.taskBody (cleared : u.Cleared w.shared.store) :
    (u.taskBody tell).advance w = (u.runBody tell).advance w := by
  unfold FlowUnit.taskBody
  split
  · rfl
  · rename_i gate gated
    rw [Process.look, JobBody.advance]
    simp only [cleared gate gated]
    rfl

end FlowUnit

/-- What is under the key was supplied to the run, or the job of the node that provides the key has
committed it. -/
inductive Flow.Sourced (f : Flow) (inputs : List (Key × Value)) (start m : Machine FlowState)
    (k : Key) : Held → Prop
  | supplied {v : Value} (declared : f.plan.graph.isFlowInput k = true)
    (given : inputs.lookup k = some v) : Sourced f inputs start m k (.value v)
  | committed {held : Held} {d : NodeId} {job : Nat} (provider : f.plan.graph.providerOf k = some d)
    (placed : f.plan.enqueueOrder[job]? = some d) (commits : start.HasCommitted m job k held) :
    Sourced f inputs start m k held

/-- The key stands for the completion of a task that is run for its effects. -/
def Flow.Completion (f : Flow) (k : Key) : Prop :=
  ∃ i u, f.unit? i = some u ∧ u.task.invoke = true ∧ k = .finished i

/-- From now on the context reads what is under the key. -/
def Flow.Readable (f : Flow) (inputs : List (Key × Value)) (start m : Machine FlowState)
    (c : TaskContext) (k : Key) : Prop :=
  ∃ held, f.Sourced inputs start m k held ∧
    ∀ m', Machine.Comes m m' → c.read m'.shared.store.value? k false = .ok held.read

/-- Neither now nor later the context reads anything under the key. -/
def Machine.Unreadable (m : Machine FlowState) (c : TaskContext) (k : Key) : Prop :=
  ∀ m', Comes m m' →
    c.read m'.shared.store.value? k false = .error (.unavailable c.task k)

/-- What the job at this place delivers. -/
inductive Flow.Delivers (f : Flow) (job : Nat) (pairs : List (Key × Held)) : Prop
  | task {i : Nat} {u : FlowUnit} (unitFound : f.unit? i = some u)
    (placed : f.plan.enqueueOrder[job]? = some u.task.node) (outputs : u.Outputs pairs)
  | predicate {i : Nat} {u : FlowUnit} {gate : Gate} (unitFound : f.unit? i = some u)
    (gated : u.task.gate = some gate) (placed : f.plan.enqueueOrder[job]? = some gate.node)
    (verdicts : u.Verdicts gate pairs)

/-- The key is an output of the node with this job. -/
def Flow.Owns (f : Flow) (job : Nat) (k : Key) : Prop :=
  ∃ id n, f.plan.enqueueOrder[job]? = some id ∧ f.plan.graph.nodes[id]? = some n ∧ k ∈ n.outputs

/-- The jobs of a flow at the start of a run. -/
def Flow.opening (f : Flow) (q : Scheduler FlowState) (token : Token) (shared : FlowState) :
    Machine FlowState :=
  q.start (Lifecycle.conditions token f.emitter f.name FlowState.onSinks) shared

namespace Compiled

variable {s : FlowSpec} {f : Flow} {inputs : List (Key × Value)} {start m : Machine FlowState}
  {k : Key} {id : NodeId} {job : Nat}

/-- The body of a job delivers what is foreseen. -/
theorem body_delivers (compiled : Compiled s f) {body : JobBody FlowState}
    (found : f.jobBodies[job]? = some body) : body.Delivers (f.Delivers job) := by
  rw [compiled.jobBodies_at, Option.bind_eq_some_iff] at found
  obtain ⟨id, placed, found⟩ := found
  obtain ⟨i, u, unitFound, rfl | ⟨gate, gated, rfl⟩⟩ := compiled.unit_at placed
  · rw [(compiled.nodes_of_unit unitFound).1.body, Option.some.injEq] at found
    exact found ▸ (compiled.formed_of_unit unitFound).taskBody_delivers.mono
      fun _ outputs => .task unitFound placed outputs
  · rw [((compiled.nodes_of_unit unitFound).2 gate gated).body, Option.some.injEq] at found
    exact found ▸ (FlowUnit.predicateBody_delivers gated).mono
      fun _ verdicts => .predicate unitFound gated placed verdicts

/-- Jobs deliver outputs of their own nodes. -/
theorem owns_of_delivers (compiled : Compiled s f) {pairs : List (Key × Held)}
    (delivers : f.Delivers job pairs) : ∀ p ∈ pairs, f.Owns job p.1 := by
  intro p mem
  cases delivers with
  | @task i u found placed outputs =>
    obtain ⟨values, keys, rfl⟩ := outputs
    obtain ⟨n, node⟩ := compiled.node_of_unit found
    obtain ⟨⟨k, v⟩, pair, rfl⟩ := List.mem_map.mp mem
    refine ⟨_, n, placed, node, ((compiled.nodes_of_unit found).1.outputs n node).1 k ?_⟩
    rw [← keys]
    exact List.mem_map_of_mem (f := (·.1)) pair
  | @predicate i u gate found gated placed verdicts =>
    obtain ⟨_, _, v, _, _, _, rfl⟩ := verdicts
    obtain ⟨n, node⟩ := compiled.gate_of_unit found gated
    refine ⟨_, n, placed, node, ?_⟩
    rw [((compiled.nodes_of_unit found).2 gate gated).outputs n node, List.mem_singleton.mp mem]
    exact List.mem_singleton_self _

theorem owns_apart (compiled : Compiled s f) {i j : Nat} (one : f.Owns i k) (two : f.Owns j k) :
    i = j := by
  obtain ⟨_, n, placed, node, output⟩ := one
  obtain ⟨_, n', placed', node', output'⟩ := two
  obtain rfl := compiled.provider_unique node output node' output'
  rw [← compiled.idxOf_at placed, compiled.idxOf_at placed']

/-- The tasks without results are those that are run for their effects. -/
theorem idle_iff (compiled : Compiled s f) {i : Nat} {u : FlowUnit} (found : f.unit? i = some u) :
    u.task.outputs = [] ↔ u.task.invoke = true := by
  obtain ⟨t, work, placed, _, rfl⟩ := compiled.of_unit found
  exact (compiled.formed.tasks _ (List.mem_map_of_mem (List.mem_of_getElem? placed))).invoke

/-- Nothing is missing in what a job delivers. -/
theorem delivered (compiled : Compiled s f) (placed : f.plan.enqueueOrder[job]? = some id)
    {n : Node} (node : f.plan.graph.nodes[id]? = some n) (output : k ∈ n.outputs)
    (real : ¬ f.Completion k) {pairs : List (Key × Held)} (delivers : f.Delivers job pairs) :
    ∃ held, pairs.lookup k = some held := by
  cases delivers with
  | @task i u unitFound there outputs =>
    obtain ⟨values, keys, rfl⟩ := outputs
    rw [placed, Option.some.injEq] at there
    subst there
    have mem : k ∈ u.task.outputs := by
      refine (((compiled.nodes_of_unit unitFound).1.outputs n node).2 k output).resolve_right ?_
      rintro ⟨idle, rfl⟩
      refine real ⟨i, u, unitFound, (compiled.idle_iff unitFound).mp idle, ?_⟩
      rw [(compiled.kinds_of_unit unitFound).1]
    rw [← keys] at mem
    obtain ⟨v, found⟩ := Option.isSome_iff_exists.mp (lookup_isSome.mpr mem)
    exact ⟨.value v, by rw [lookup_map, found]; rfl⟩
  | @predicate i u gate unitFound gated there verdicts =>
    obtain ⟨_, _, v, _, _, _, rfl⟩ := verdicts
    rw [placed, Option.some.injEq] at there
    subst there
    rw [((compiled.nodes_of_unit unitFound).2 gate gated).outputs n node,
      List.mem_singleton] at output
    exact ⟨.verdict v, output ▸ List.lookup_cons_self⟩

section run

variable {q : Scheduler FlowState} {token : Token} {shared : FlowState}

theorem opening_delivering (compiled : Compiled s f) (bodies : q.bodies = f.jobBodies)
    (seeded : Store.seeded f.plan inputs = .ok shared.store) (token : Token) :
    (f.opening q token shared).Delivering f.Delivers f.Owns where
  slots := by
    intro i slot found
    obtain ⟨body, there, rfl⟩ := Option.map_eq_some_iff.mp ((List.getElem?_map ..).symm.trans found)
    rw [bodies] at there
    exact compiled.body_delivers there
  within := fun _ _ => compiled.owns_of_delivers
  apart := fun _ _ _ => compiled.owns_apart
  free := by
    rintro i _ _ _ k ⟨id, n, _, node, output⟩
    obtain ⟨keys, declared⟩ := Store.seeded_keys f.plan seeded
    constructor
    · show k ∈ shared.store.keys
      rw [keys, Store.forPlan_keys]
      exact .inr (List.mem_flatMap.mpr ⟨n, List.mem_of_getElem? node, output⟩)
    · show shared.store.get? k = none
      rw [(Store.seeded_get f.plan seeded).1, Option.map_eq_none_iff]
      by_contra present
      obtain ⟨v, given⟩ := Option.ne_none_iff_exists'.mp present
      have input := declared _ (mem_pairs_of_lookup given)
      rw [compiled.graph, s.spec.isFlowInput_iff] at input
      exact compiled.output_not_input node output input
  samples := q.samples_store token f.emitter f.name shared

/-- What is in the store was supplied, or a job has put it there. -/
theorem origin (compiled : Compiled s f) (delivering : start.Delivering f.Delivers f.Owns)
    (seeded : Store.seeded f.plan inputs = .ok start.shared.store) (comes : Machine.Comes start m)
    {held : Held} (there : m.shared.store.get? k = some held) :
    k ∈ s.inputs.map (·.key) ∨ ∃ m₀ job, start.Commits m₀ job k held := by
  refine (delivering.origin comes there).imp_left fun first => ?_
  rw [(Store.seeded_get f.plan seeded).1] at first
  obtain ⟨v, given, _⟩ := Option.map_eq_some_iff.mp first
  have input := (Store.seeded_keys f.plan seeded).2 _ (mem_pairs_of_lookup given)
  rwa [compiled.graph, s.spec.isFlowInput_iff] at input

end run

end Compiled

/-- What a context reads that the body of a job was started with. -/
structure Flow.Serves (f : Flow) (inputs : List (Key × Value)) (start m : Machine FlowState)
    (c : TaskContext) : Prop where
  readable : ∀ k ∈ c.inputs, ¬ f.Completion k → f.Readable inputs start m c k
  unreadable : ∀ k ∈ c.inputs, f.Completion k → m.Unreadable c k

end KeyFlow
