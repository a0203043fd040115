import KeyFlow.Proofs.Flow.Yields

/-!
The evaluation of a flow, narrowed to the nodes that have jobs. The others have no say in what these
come to, nor in the outputs of the flow.
-/

namespace KeyFlow

/-- A body sees nothing but the inputs of its context. -/
theorem Body.evaluate_congr {α : Type} {c : TaskContext} {values values' : Key → Option Value}
    (same : ∀ k ∈ c.inputs, values k = values' k) (cancelled : Bool) (own : Staging)
    (body : TaskBody α) :
    body.evaluate c values cancelled own = body.evaluate c values' cancelled own := by
  have reply (own : Staging) (request : Request) :
      c.reply values own request = c.reply values' own request := by
    cases request with
    | input k typed =>
      simp only [TaskContext.reply, TaskContext.answer, TaskContext.read_congr same]
    | note | provide | taskName => rfl
  induction body generalizing cancelled own with
  | done e => rfl
  | call request next ih =>
    simp only [evaluate, reply]
    exact ih _ cancelled _
  | sleep millis next ih => exact ih 0 cancelled own
  | awaitCancel next ih => simp only [evaluate, ih]
  | isCancelled next ih => exact ih cancelled cancelled own
  | cancelRun next => rfl
  | cancelOwn next ih => exact ih true own

namespace FlowUnit

variable {u : FlowUnit} {marks marks' : Key → Option Mark}

theorem evaluateBody_congr (same : ∀ k ∈ u.task.inputs, marks k = marks' k) :
    u.evaluateBody marks = u.evaluateBody marks' := by
  simp only [evaluateBody, TaskBody.outputs?]
  rw [Body.evaluate_congr fun k mem => by rw [same k mem]]

theorem evaluateTask_congr (same : ∀ k ∈ u.task.inputs, marks k = marks' k)
    (verdict : ∀ gate, u.task.gate = some gate → marks gate.sentinel = marks' gate.sentinel) :
    u.evaluateTask marks = u.evaluateTask marks' := by
  unfold evaluateTask
  cases gated : u.task.gate with
  | none => exact evaluateBody_congr same
  | some gate => simp only [verdict gate gated, evaluateBody_congr same]

theorem evaluatePredicate_congr
    (same : ∀ gate, u.task.gate = some gate → ∀ k ∈ gate.inputs, marks k = marks' k) :
    u.evaluatePredicate marks = u.evaluatePredicate marks' := by
  unfold evaluatePredicate
  cases gated : u.task.gate with
  | none => rfl
  | some gate =>
    cases u.work.check with
    | none => rfl
    | some check =>
      simp only [TaskBody.truth?]
      rw [Body.evaluate_congr fun k mem => by rw [same gate gated k mem]]

end FlowUnit

/-- The key is an output of the flow, or some node with a job waits for it. -/
def Flow.Matters (f : Flow) (k : Key) : Prop :=
  k ∈ f.plan.graph.outputs.map (·.key) ∨
    ∃ id ∈ f.plan.enqueueOrder, k ∈ f.plan.graph.dependenciesOf id

/-- The evaluations agree on the nodes that have jobs, and on the keys that matter. -/
structure Evaluation.Agree (f : Flow) (e e' : Evaluation) : Prop where
  fates : ∀ id ∈ f.plan.enqueueOrder, e.fateOf id = e'.fateOf id
  marks : ∀ k, f.Matters k → e.mark? k = e'.mark? k

namespace Built

variable {s : FlowSpec} {f : Flow} {inputs : List (Key × Value)} {e e' : Evaluation} {id : NodeId}

/-- What comes of a node is a matter of what it waits for. -/
theorem attempt_congr (built : Built s f) {marks marks' : Key → Option Mark}
    (same : ∀ k ∈ f.plan.graph.dependenciesOf id, marks k = marks' k) :
    f.attempt marks id = f.attempt marks' id := by
  by_cases inRange : id < f.plan.graph.nodes.length
  · obtain ⟨u, _, task | ⟨gate, predicate⟩⟩ := built.node_cases inRange
    · rw [task.attempt, task.attempt]
      exact FlowUnit.evaluateTask_congr (fun k mem => same k (task.inputs k mem))
        fun gate gated => same _ (task.verdict gate gated)
    · rw [predicate.attempt, predicate.attempt]
      refine FlowUnit.evaluatePredicate_congr fun gate' gated k mem => same k ?_
      rw [predicate.gated, Option.some.injEq] at gated
      exact predicate.inputs k (gated ▸ mem)
  · rw [Flow.attempt, Flow.attempt, List.getElem?_eq_none (Nat.le_of_not_lt inRange)]
    rfl

/-- Whatever provides a key that matters has a job. -/
theorem scheduled_of_matters (built : Built s f) {n : Node} {k : Key}
    (node : f.plan.graph.nodes[id]? = some n) (output : k ∈ n.outputs) (matters : f.Matters k) :
    id ∈ f.plan.enqueueOrder := by
  rw [built.mem_enqueueOrder]
  rw [built.nodes] at node
  rcases matters with asked | ⟨id', scheduled, waits⟩
  · rw [built.graph, s.spec.graph_outputs] at asked
    rw [built.graph]
    exact .root (Spec.mem_roots_of_output built.sourced asked node output)
  · refine .dependency (built.mem_enqueueOrder.mp scheduled) (Graph.mem_dependencyNodes.mpr ?_)
    refine ⟨k, waits, ?_⟩
    rw [built.graph]
    exact built.sourced.providerOf.mpr ⟨n, node, output⟩

/-- A node without a job leaves nothing behind that matters. -/
theorem unscheduled_leaves (built : Built s f) (unscheduled : id ∉ f.plan.enqueueOrder)
    {w : Key × Mark} (left : w ∈ (f.resultOf e id).2) : ¬ f.Matters w.1 := by
  intro matters
  rw [Flow.resultOf] at left
  split at left
  · by_cases inRange : id < f.plan.graph.nodes.length
    · have node := List.getElem?_eq_getElem inRange
      have output := (built.attempt_yields node e.mark?).within w left
      exact unscheduled (built.scheduled_of_matters node output matters)
    · rw [Flow.attempt, List.getElem?_eq_none (Nat.le_of_not_lt inRange)] at left
      cases left
  · cases left

theorem agree_scheduled (built : Built s f) (agree : Evaluation.Agree f e e')
    (scheduled : id ∈ f.plan.enqueueOrder) :
    Evaluation.Agree f (f.evaluateNode e id) (f.evaluateNode e' id) := by
  have result : f.resultOf e id = f.resultOf e' id := by
    have ready : (∀ d ∈ f.plan.graph.dependencyNodes id, e.fateOf d = some .succeeded) ↔
        ∀ d ∈ f.plan.graph.dependencyNodes id, e'.fateOf d = some .succeeded := by
      refine forall₂_congr fun d dependency => ?_
      rw [agree.fates d (built.mem_enqueueOrder.mpr
        (.dependency (built.mem_enqueueOrder.mp scheduled) dependency))]
    simp only [Flow.resultOf, ready]
    rw [built.attempt_congr fun k waits => agree.marks k (.inr ⟨id, scheduled, waits⟩)]
  constructor
  · intro d mem
    have before : e.fates.lookup d = e'.fates.lookup d := agree.fates d mem
    simp only [Flow.evaluateNode, Evaluation.add, Evaluation.fateOf, List.lookup_append, before,
      result]
  · intro k matters
    have before : e.marks.lookup k = e'.marks.lookup k := agree.marks k matters
    simp only [Flow.evaluateNode, Evaluation.add, Evaluation.mark?, List.lookup_append, before,
      result]

theorem agree_unscheduled (built : Built s f) (agree : Evaluation.Agree f e e')
    (unscheduled : id ∉ f.plan.enqueueOrder) :
    Evaluation.Agree f (f.evaluateNode e id) e' := by
  constructor
  · intro d mem
    rw [← agree.fates d mem]
    have other : (d == id) = false := beq_false_of_ne fun same => unscheduled (same ▸ mem)
    simp only [Flow.evaluateNode, Evaluation.add, Evaluation.fateOf, List.lookup_append,
      List.lookup_cons, other, List.lookup_nil, Option.or_none]
  · intro k matters
    rw [← agree.marks k matters]
    have nothing : (f.resultOf e id).2.lookup k = none := by
      rw [lookup_eq_none]
      intro listed
      obtain ⟨w, left, rfl⟩ := List.mem_map.mp listed
      exact built.unscheduled_leaves unscheduled left matters
    simp only [Flow.evaluateNode, Evaluation.add, Evaluation.mark?, List.lookup_append, nothing,
      Option.or_none]

/-- Nodes without jobs can be left out. -/
theorem foldl_agree (built : Built s f) {p : NodeId → Bool} {ids : List NodeId}
    (scheduled : ∀ id ∈ ids, id ∈ f.plan.enqueueOrder ↔ p id = true)
    (agree : Evaluation.Agree f e e') :
    Evaluation.Agree f (ids.foldl f.evaluateNode e) ((ids.filter p).foldl f.evaluateNode e') := by
  induction ids generalizing e e' with
  | nil => exact agree
  | cons id ids ih =>
    obtain ⟨here, later⟩ := List.forall_mem_cons.mp scheduled
    by_cases has : p id = true
    · rw [List.filter_cons_of_pos has]
      exact ih later (built.agree_scheduled agree (here.mpr has))
    · rw [List.filter_cons_of_neg has]
      exact ih later (built.agree_unscheduled agree (mt here.mp has))

theorem evaluate_agree (built : Built s f) (inputs : List (Key × Value)) :
    Evaluation.Agree f (f.evaluate inputs) (f.evaluateJobs inputs) := by
  refine built.foldl_agree (fun id mem => ?_) ⟨fun _ _ => rfl, fun _ _ => rfl⟩
  rw [Plan.enqueueOrder, List.mem_filter, and_iff_right mem]

end Built

end KeyFlow
