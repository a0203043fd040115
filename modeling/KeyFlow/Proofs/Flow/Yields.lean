import KeyFlow.Proofs.Flow.Built
import KeyFlow.Proofs.Flow.Steps

/-!
What the nodes of a flow come to. A node leaves behind all of its outputs or none, no key is left
behind twice, and what a node waits for was left behind by one that it depends on, unless it is an
input of the flow. Only the completion of a task is nothing that is left behind.
-/

namespace KeyFlow

theorem marked_keys (pairs : List (Key × Value)) :
    (marked pairs).map (·.1) = pairs.map (·.1) := by
  rw [marked, List.map_map]
  rfl

namespace FlowUnit

variable {u : FlowUnit}

theorem Steady.settled_cases (steady : u.Steady) (given : Option (List (Key × Value)))
    (keys : ∀ pairs, given = some pairs → pairs.map (·.1) = u.task.outputs) :
    u.settled given = (.failed, []) ∨
      ∃ pairs, u.settled given = (.succeeded, marked pairs) ∧
        pairs.map (·.1) = u.task.outputs := by
  cases given with
  | some pairs => exact .inr ⟨pairs, rfl, keys pairs rfl⟩
  | none =>
    rw [settled]
    cases fallback : u.work.fallback with
    | none => exact .inl rfl
    | some values => exact .inr ⟨_, rfl, steady.zip_keys fallback⟩

theorem Steady.evaluateTask_cases (steady : u.Steady) (marks : Key → Option Mark) :
    u.evaluateTask marks = (.failed, []) ∨ u.evaluateTask marks = (.declined, []) ∨
      ∃ pairs, u.evaluateTask marks = (.succeeded, marked pairs) ∧
        pairs.map (·.1) = u.task.outputs := by
  have body := steady.settled_cases (u.work.body.outputs? ⟨u.task.name, u.task.inputs⟩
    u.task.outputs fun k => (marks k).map Mark.read) fun pairs => outputs?_keys
  have recovered := steady.settled_cases none nofun
  unfold evaluateTask
  split
  · exact body.imp_right .inr
  · split
    · exact body.imp_right .inr
    · exact .inr (.inl rfl)
    · exact recovered.imp_right .inr
    · exact .inl rfl

theorem evaluatePredicate_cases {gate : Gate} (gated : u.task.gate = some gate)
    (marks : Key → Option Mark) : u.evaluatePredicate marks = (.failed, []) ∨
      ∃ m, u.evaluatePredicate marks = (.succeeded, [(gate.sentinel, m)]) := by
  rw [evaluatePredicate, gated]
  cases u.work.check with
  | none => exact .inl rfl
  | some check =>
    simp only
    split
    · exact .inr ⟨_, rfl⟩
    · exact .inr ⟨_, rfl⟩
    · split
      · exact .inr ⟨_, rfl⟩
      · exact .inl rfl

end FlowUnit

/-- A result that the node may come to. -/
structure Yields (n : Node) (r : Result) : Prop where
  ran : r.1 ≠ .skipped
  quiet : r.1 ≠ .succeeded → r.2 = []
  once : (r.2.map (·.1)).Nodup
  within : ∀ w ∈ r.2, w.1 ∈ n.outputs
  all : r.1 = .succeeded → ∀ k ∈ n.outputs,
    (∃ m, (k, m) ∈ r.2) ∨ r.2 = [] ∧ ∃ i, k = .finished i

theorem Yields.of_nothing (n : Node) {fate : Fate} (ran : fate ≠ .skipped)
    (fails : fate ≠ .succeeded) : Yields n (fate, []) where
  ran := ran
  quiet := fun _ => rfl
  once := List.nodup_nil
  within := nofun
  all := fun succeeded => absurd succeeded fails

namespace Built

variable {s : FlowSpec} {f : Flow} {inputs : List (Key × Value)}

theorem attempt_yields (built : Built s f) {id : NodeId} {n : Node}
    (placed : f.plan.graph.nodes[id]? = some n) (marks : Key → Option Mark) :
    Yields n (f.attempt marks id) := by
  obtain ⟨u, steady, task | ⟨gate, predicate⟩⟩ :=
    built.node_cases (List.getElem?_eq_some_iff.mp placed).1
  · rw [task.attempt]
    obtain ⟨within, all⟩ := task.outputs n placed
    rcases steady.evaluateTask_cases marks with failed | declined | ⟨pairs, succeeded, keys⟩
    · rw [failed]
      exact .of_nothing n nofun nofun
    · rw [declined]
      exact .of_nothing n nofun nofun
    · rw [succeeded]
      have listed := (marked_keys pairs).trans keys
      refine ⟨nofun, fun no => absurd rfl no, listed ▸ steady.once, fun w mem => ?_,
        fun _ k output => ?_⟩
      · exact within w.1 (listed ▸ List.mem_map_of_mem mem)
      · rcases all k output with given | ⟨idle, is⟩
        · rw [← listed] at given
          obtain ⟨⟨_, m⟩, left, rfl⟩ := List.mem_map.mp given
          exact .inl ⟨m, left⟩
        · rw [idle, List.map_eq_nil_iff] at listed
          exact .inr ⟨listed, _, is⟩
  · rw [predicate.attempt]
    have outputs := predicate.outputs n placed
    rcases FlowUnit.evaluatePredicate_cases predicate.gated marks with failed | ⟨m, succeeded⟩
    · rw [failed]
      exact .of_nothing n nofun nofun
    · rw [succeeded]
      refine ⟨nofun, fun no => absurd rfl no, List.nodup_singleton _, fun w mem => ?_,
        fun _ k output => ?_⟩
      · rw [List.mem_singleton.mp mem, outputs]
        exact List.mem_singleton_self _
      · rw [outputs, List.mem_singleton] at output
        exact .inl ⟨m, output ▸ List.mem_singleton_self _⟩

/-- What a step leaves behind are outputs of its node. -/
theorem result_yields (built : Built s f) (inputs : List (Key × Value)) {j : Nat} {id : NodeId}
    {n : Node} (placed : f.plan.enqueueOrder[j]? = some id)
    (node : f.plan.graph.nodes[id]? = some n) :
    f.resultAt inputs j = (.skipped, []) ∨ Yields n (f.resultAt inputs j) := by
  rcases Flow.resultAt_iff built.enqueueOrder_nodup placed with ⟨_, attempted⟩ | ⟨_, skipped⟩
  · rw [attempted]
    exact .inr (built.attempt_yields node _)
  · exact .inl skipped

theorem result_within (built : Built s f) {j : Nat} {w : Key × Mark}
    (mem : w ∈ (f.resultAt inputs j).2) :
    ∃ id n, f.plan.enqueueOrder[j]? = some id ∧ f.plan.graph.nodes[id]? = some n ∧
      w.1 ∈ n.outputs := by
  cases placed : f.plan.enqueueOrder[j]? with
  | none =>
    rw [Flow.resultAt_of_le (List.getElem?_eq_none_iff.mp placed)] at mem
    cases mem
  | some id =>
    obtain ⟨n, node⟩ := built.node_at placed
    rcases built.result_yields inputs placed node with skipped | yields
    · rw [skipped] at mem
      cases mem
    · exact ⟨id, n, rfl, node, yields.within w mem⟩

theorem result_once (built : Built s f) (j : Nat) :
    ((f.resultAt inputs j).2.map (·.1)).Nodup := by
  cases placed : f.plan.enqueueOrder[j]? with
  | none =>
    rw [Flow.resultAt_of_le (List.getElem?_eq_none_iff.mp placed)]
    exact List.nodup_nil
  | some id =>
    obtain ⟨n, node⟩ := built.node_at placed
    rcases built.result_yields inputs placed node with skipped | yields
    · rw [skipped]
      exact List.nodup_nil
    · exact yields.once

/-! ## Marks -/

/-- A key is left behind by one step only. -/
theorem result_apart (built : Built s f) {i j : Nat} {w v : Key × Mark}
    (here : w ∈ (f.resultAt inputs i).2) (there : v ∈ (f.resultAt inputs j).2)
    (same : w.1 = v.1) : i = j := by
  obtain ⟨a, n, placed, node, output⟩ := built.result_within here
  obtain ⟨b, n', placed', node', output'⟩ := built.result_within there
  have one := built.provider_unique node output node' (same ▸ output')
  rw [← built.idxOf_at placed, ← built.idxOf_at placed', one]

theorem result_not_input (built : Built s f) {j : Nat} {w : Key × Mark}
    (mem : w ∈ (f.resultAt inputs j).2) : w.1 ∉ s.inputs.map (·.key) := by
  obtain ⟨id, n, _, node, output⟩ := built.result_within mem
  exact built.output_not_input node output

theorem upTo_once (built : Built s f)
    (declared : (inputs.map (·.1)).Perm (s.inputs.map (·.key))) (j : Nat) :
    ((f.upTo inputs j).marks.map (·.1)).Nodup := by
  induction j with
  | zero =>
    show ((marked inputs).map (·.1)).Nodup
    rw [marked_keys, declared.nodup_iff]
    exact built.formed.inputs
  | succ j ih =>
    rw [Flow.upTo_marks, List.map_append]
    refine List.nodup_append.mpr ⟨ih, built.result_once j, fun k before k' now same => ?_⟩
    obtain ⟨w, old, rfl⟩ := List.mem_map.mp before
    obtain ⟨v, new, rfl⟩ := List.mem_map.mp now
    rcases Flow.mem_marks.mp old with input | ⟨i, lt, earlier⟩
    · have given : w.1 ∈ (marked inputs).map (·.1) := List.mem_map_of_mem input
      rw [marked_keys, declared.mem_iff, same] at given
      exact built.result_not_input new given
    · have one := built.result_apart earlier new same
      omega

theorem mark?_iff (built : Built s f)
    (declared : (inputs.map (·.1)).Perm (s.inputs.map (·.key))) {j : Nat} {k : Key} {m : Mark} :
    (f.upTo inputs j).mark? k = some m ↔ (k, m) ∈ (f.upTo inputs j).marks :=
  lookup_iff_mem (built.upTo_once declared j)

/-- What a node waits for is there when all that it depends on succeeded. If it is not, it stands
for the completion of a task, and nobody leaves it behind. -/
theorem source_mark (built : Built s f)
    (declared : (inputs.map (·.1)).Perm (s.inputs.map (·.key))) {j : Nat} {id : NodeId} {k : Key}
    (scheduled : id ∈ f.plan.enqueueOrder)
    (ready : ∀ d ∈ f.plan.graph.dependencyNodes id, ∃ i < j, f.plan.enqueueOrder[i]? = some d ∧
      (f.resultAt inputs i).1 = .succeeded)
    (waits : k ∈ f.plan.graph.dependenciesOf id) :
    (∃ m, (k, m) ∈ (f.upTo inputs j).marks) ∨
      (∃ i, k = .finished i) ∧ k ∉ s.inputs.map (·.key) ∧
        ∀ i, ∀ w ∈ (f.resultAt inputs i).2, w.1 ≠ k := by
  rcases built.source scheduled waits with input | ⟨d, n, node, output, dependency⟩
  · rw [← declared.mem_iff] at input
    obtain ⟨⟨k', v⟩, given, rfl⟩ := List.mem_map.mp input
    exact .inl ⟨.value v, Flow.mem_marks.mpr (.inl (List.mem_map.mpr ⟨(k', v), given, rfl⟩))⟩
  · obtain ⟨i, lt, placed, succeeded⟩ := ready d dependency
    rcases built.result_yields inputs placed node with skipped | yields
    · rw [skipped] at succeeded
      cases succeeded
    · rcases yields.all succeeded k output with ⟨m, left⟩ | ⟨nothing, finished⟩
      · exact .inl ⟨m, Flow.mem_marks.mpr (.inr ⟨i, lt, left⟩)⟩
      · refine .inr ⟨finished, built.output_not_input node output, ?_⟩
        rintro i' w left rfl
        obtain ⟨d', n', placed', node', output'⟩ := built.result_within left
        obtain rfl := built.provider_unique node output node' output'
        rw [← built.idxOf_at placed', built.idxOf_at placed, nothing] at left
        cases left

end Built

end KeyFlow
