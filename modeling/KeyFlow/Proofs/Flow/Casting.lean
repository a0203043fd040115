import KeyFlow.Proofs.Flow.Cast
import KeyFlow.Proofs.Flow.Yields

/-!
The evaluation of a flow foresees a part for each of its jobs. A job reads what was left behind by
those that it depends on, and no slot is written twice, so the parts fit together.
-/

namespace KeyFlow

/-- How a job ends that was started. -/
def Fate.outcome? : Fate → Option Outcome
  | .succeeded => some .succeeded
  | .declined => some .declined
  | .failed => some .failed
  | .skipped => none

theorem Fate.outcome?_iff {fate : Fate} {o : Outcome} :
    fate.outcome? = some o ↔ fate = o.fate := by
  cases fate <;> cases o <;> simp [outcome?, Outcome.fate]

theorem Outcome.fate_ne_skipped (o : Outcome) : o.fate ≠ .skipped := by cases o <;> nofun

namespace Flow

/-- The part that is foreseen for a job, unless it is to be skipped. -/
def part? (f : Flow) (inputs : List (Key × Value)) (j : Nat) : Option Part :=
  match f.plan.enqueueOrder[j]? with
  | none => none
  | some id => (f.resultAt inputs j).1.outcome?.map fun outcome =>
    { keys := f.plan.graph.dependenciesOf id
      reads := (f.upTo inputs j).mark?
      outcome
      writes := (f.resultAt inputs j).2 }

/-- The jobs of a flow in the order in which they are taken in. -/
def cast (f : Flow) (inputs : List (Key × Value)) : Cast where
  deps := f.jobDeps
  bodies := f.jobBodies
  inputs := marked inputs
  keys := (Store.forPlan f.plan : Store Held).keys
  part := f.part? inputs

variable {f : Flow} {inputs : List (Key × Value)}

theorem part?_cases {j : Nat} {p : Part} (part : f.part? inputs j = some p) :
    ∃ id, f.plan.enqueueOrder[j]? = some id ∧ p.Is (f.resultAt inputs j) ∧
      p.keys = f.plan.graph.dependenciesOf id ∧ p.reads = (f.upTo inputs j).mark? := by
  unfold part? at part
  split at part
  · cases part
  · rename_i id placed
    obtain ⟨o, outcome, rfl⟩ := Option.map_eq_some_iff.mp part
    exact ⟨id, placed, Prod.ext (Fate.outcome?_iff.mp outcome) rfl, rfl, rfl⟩

theorem part?_is {j : Nat} {p : Part} (part : f.part? inputs j = some p) :
    p.Is (f.resultAt inputs j) := by
  obtain ⟨_, _, is, _⟩ := part?_cases part
  exact is

/-- A job has a part unless it is to be skipped. -/
theorem part?_of_ran {j : Nat} (ran : (f.resultAt inputs j).1 ≠ .skipped) :
    ∃ p, f.part? inputs j = some p := by
  cases placed : f.plan.enqueueOrder[j]? with
  | none =>
    rw [resultAt_of_le (List.getElem?_eq_none_iff.mp placed)] at ran
    exact absurd rfl ran
  | some id =>
    rw [part?, placed]
    cases fate : (f.resultAt inputs j).1 with
    | skipped => exact absurd fate ran
    | succeeded | declined | failed => exact ⟨_, rfl⟩

/-- A job is to end as its node does. -/
theorem part?_outcome {j : Nat} {o : Outcome} :
    (∃ p, f.part? inputs j = some p ∧ p.outcome = o) ↔ (f.resultAt inputs j).1 = o.fate := by
  constructor
  · rintro ⟨p, part, rfl⟩
    rw [part?_is part]
  · intro fate
    have ran : (f.resultAt inputs j).1 ≠ .skipped := fate ▸ o.fate_ne_skipped
    obtain ⟨p, part⟩ := part?_of_ran ran
    exact ⟨p, part, (part?_is part).outcome fate⟩

theorem cast_deps {j : Nat} {id : NodeId} (placed : f.plan.enqueueOrder[j]? = some id) :
    (f.cast inputs).deps[j]? =
      some ((f.plan.graph.dependencyNodes id).map f.plan.enqueueOrder.idxOf) :=
  jobDeps_at placed

theorem succeeds_iff {j : Nat} :
    (f.cast inputs).Succeeds j ↔ (f.resultAt inputs j).1 = .succeeded := part?_outcome

end Flow

namespace Built

variable {s : FlowSpec} {f : Flow} {inputs : List (Key × Value)}

theorem cast_bodies (built : Built s f) (j : Nat) : (f.cast inputs).bodies[j]? =
    f.plan.enqueueOrder[j]?.bind fun id => (f.job? id).map Job.body := built.jobBodies_at j

/-- A job that waits for successes only is attempted. -/
theorem ready_iff (built : Built s f) {j : Nat} {id : NodeId}
    (placed : f.plan.enqueueOrder[j]? = some id) :
    (∀ d ∈ (f.cast inputs).deps[j]?.getD [], (f.cast inputs).Succeeds d) ↔
      ∀ d ∈ f.plan.graph.dependencyNodes id, ∃ i < j, f.plan.enqueueOrder[i]? = some d ∧
        (f.resultAt inputs i).1 = .succeeded := by
  rw [Flow.cast_deps placed, Option.getD_some, List.forall_mem_map]
  refine forall₂_congr fun d dependency => ?_
  rw [Flow.succeeds_iff]
  obtain ⟨lt, there⟩ := built.dependency_at placed dependency
  constructor
  · intro succeeded
    exact ⟨_, lt, there, succeeded⟩
  · rintro ⟨i, _, placed', succeeded⟩
    rw [built.idxOf_at placed']
    exact succeeded

theorem ready_of_part (built : Built s f) {j : Nat} {id : NodeId} {p : Part}
    (placed : f.plan.enqueueOrder[j]? = some id) (part : f.part? inputs j = some p) :
    (∀ d ∈ f.plan.graph.dependencyNodes id, ∃ i < j, f.plan.enqueueOrder[i]? = some d ∧
      (f.resultAt inputs i).1 = .succeeded) ∧
    f.resultAt inputs j = f.attempt (f.upTo inputs j).mark? id := by
  refine (Flow.resultAt_iff built.enqueueOrder_nodup placed).resolve_right fun skipped => ?_
  have is := Flow.part?_is part
  rw [skipped.2] at is
  exact p.outcome.fate_ne_skipped (congrArg Prod.fst is).symm

/-- The body of a job plays the part that is foreseen for it. -/
theorem body_plays (built : Built s f)
    (declared : (inputs.map (·.1)).Perm (s.inputs.map (·.key))) {j : Nat} {id : NodeId} {p : Part}
    (placed : f.plan.enqueueOrder[j]? = some id) (part : f.part? inputs j = some p)
    {body : JobBody FlowState} (job : (f.job? id).map Job.body = some body) :
    p.Plays false false body := by
  obtain ⟨ready, attempted⟩ := built.ready_of_part placed part
  obtain ⟨id', placed', is, keys, reads⟩ := Flow.part?_cases part
  rw [placed, Option.some.injEq] at placed'
  subst placed'
  rw [attempted] at is
  have scheduled := List.mem_of_getElem? placed
  have shown {k : Key} (waits : k ∈ f.plan.graph.dependenciesOf id) :
      (∃ m, (f.upTo inputs j).mark? k = some m) ∨ ∃ i, k = .finished i := by
    refine (built.source_mark declared scheduled ready waits).imp ?_ And.left
    rintro ⟨m, mem⟩
    exact ⟨m, (built.mark?_iff declared).mpr mem⟩
  have visible {among : List Key} (waits : ∀ k ∈ among, k ∈ f.plan.graph.dependenciesOf id) :
      p.Shows (f.upTo inputs j).mark? among :=
    ⟨fun k mem => keys ▸ waits k mem, fun k _ => by rw [reads],
      fun k mem => (shown (waits k mem)).imp_left Option.isSome_iff_exists.mpr⟩
  obtain ⟨n, node⟩ := built.node_at placed
  obtain ⟨u, steady, task | ⟨gate, predicate⟩⟩ :=
    built.node_cases (List.getElem?_eq_some_iff.mp node).1
  · rw [task.body, Option.some.injEq] at job
    rw [task.attempt] at is
    subst job
    refine steady.taskBody_plays (visible task.inputs) (fun gate gated => ?_) is
    have waits := task.verdict gate gated
    obtain ⟨m, found⟩ := (shown waits).resolve_right fun ⟨_, no⟩ => by
      rw [task.sentinel gate gated] at no
      cases no
    exact ⟨keys ▸ waits, m, reads ▸ found, found⟩
  · rw [predicate.body, Option.some.injEq] at job
    rw [predicate.attempt] at is
    subst job
    exact steady.predicateBody_plays predicate.gated (visible predicate.inputs) is

/-- What a job reads is an input, or a job that it depends on has left it behind. -/
theorem reads_cases (built : Built s f) {j : Nat} {id : NodeId} {r : Key × Mark}
    (scheduled : id ∈ f.plan.enqueueOrder) (mem : r ∈ (f.upTo inputs j).marks)
    (waits : r.1 ∈ f.plan.graph.dependenciesOf id) :
    r ∈ marked inputs ∨ ∃ d ∈ f.plan.graph.dependencyNodes id,
      ∃ i, f.plan.enqueueOrder[i]? = some d ∧ r ∈ (f.resultAt inputs i).2 := by
  refine (Flow.mem_marks.mp mem).imp_right ?_
  rintro ⟨i, _, left⟩
  obtain ⟨d, n, placed, node, output⟩ := built.result_within left
  rcases built.source scheduled waits with input | ⟨d', n', node', output', dependency⟩
  · exact absurd input (built.output_not_input node output)
  · have one := built.provider_unique node output node' output'
    exact ⟨d, one ▸ dependency, i, placed, left⟩

/-- What a step leaves behind is what the job is to leave behind. -/
theorem part_writes (built : Built s f) {j : Nat} {w : Key × Mark} :
    (∃ p, f.part? inputs j = some p ∧ w ∈ p.writes) ↔ w ∈ (f.resultAt inputs j).2 := by
  constructor
  · rintro ⟨p, part, mem⟩
    rw [← (Flow.part?_is part).writes]
    exact mem
  · intro mem
    obtain ⟨id, n, placed, node, _⟩ := built.result_within mem
    have ran : (f.resultAt inputs j).1 ≠ .skipped := by
      rcases built.result_yields inputs placed node with skipped | yields
      · rw [skipped] at mem
        cases mem
      · exact yields.ran
    obtain ⟨p, part⟩ := Flow.part?_of_ran ran
    exact ⟨p, part, (Flow.part?_is part).writes ▸ mem⟩

/-- The parts of the jobs of a flow fit together. -/
theorem cast_fits (built : Built s f)
    (declared : (inputs.map (·.1)).Perm (s.inputs.map (·.key))) : (f.cast inputs).Fits where
  plays := by
    intro j body job ready
    rw [built.cast_bodies, Option.bind_eq_some_iff] at job
    obtain ⟨id, placed, job⟩ := job
    obtain ⟨n, node⟩ := built.node_at placed
    rw [built.ready_iff placed] at ready
    have attempted : f.resultAt inputs j = f.attempt (f.upTo inputs j).mark? id := by
      rcases Flow.resultAt_iff built.enqueueOrder_nodup placed with
        ⟨_, attempted⟩ | ⟨⟨d, mem, fails⟩, _⟩
      · exact attempted
      · obtain ⟨i, lt, placed', succeeded⟩ := ready d mem
        exact absurd succeeded (fails i lt placed')
    have ran : (f.resultAt inputs j).1 ≠ .skipped :=
      attempted ▸ (built.attempt_yields node _).ran
    obtain ⟨p, part⟩ := Flow.part?_of_ran ran
    exact ⟨p, part, built.body_plays declared placed part job⟩
  gated := by
    intro j p part
    obtain ⟨id, placed, _⟩ := Flow.part?_cases part
    exact (built.ready_iff placed).mpr (built.ready_of_part placed part).1
  inRange := by
    intro j p part
    obtain ⟨id, placed, _⟩ := Flow.part?_cases part
    rw [Flow.cast, Flow.jobDeps, List.length_map]
    exact (List.getElem?_eq_some_iff.mp placed).1
  reads := by
    intro j p part k mem m foreseen
    obtain ⟨id, placed, _, keys, reads⟩ := Flow.part?_cases part
    rw [keys] at mem
    rw [reads, built.mark?_iff declared] at foreseen
    refine (built.reads_cases (List.mem_of_getElem? placed) foreseen mem).imp_right ?_
    rintro ⟨d, dependency, i, there, left⟩
    obtain ⟨q, part', writes⟩ := built.part_writes.mpr left
    refine ⟨i, ?_, q, part', writes⟩
    rw [Flow.cast_deps placed, Option.getD_some, List.mem_map]
    exact ⟨d, dependency, built.idxOf_at there⟩
  blank := by
    intro j p part k mem none m
    obtain ⟨id, placed, _, keys, reads⟩ := Flow.part?_cases part
    rw [keys] at mem
    rw [reads] at none
    have ready := (built.ready_of_part placed part).1
    rcases built.source_mark declared (List.mem_of_getElem? placed) ready mem with
      ⟨m', left⟩ | ⟨_, notInput, unwritten⟩
    · rw [(built.mark?_iff declared).mpr left] at none
      cases none
    · refine ⟨fun input => notInput ?_, fun i q part' left => ?_⟩
      · rw [← declared.mem_iff, ← marked_keys]
        exact List.mem_map_of_mem (f := (·.1)) input
      · exact unwritten i (k, m) (built.part_writes.mp ⟨q, part', left⟩) rfl
  quiet := by
    intro j p part fails
    obtain ⟨id, placed, is, _⟩ := Flow.part?_cases part
    obtain ⟨n, node⟩ := built.node_at placed
    have yields := built.attempt_yields node (f.upTo inputs j).mark?
    rw [← (built.ready_of_part placed part).2, is] at yields
    refine yields.quiet fun succeeded => fails ?_
    exact Part.outcome_of_fate (show _ = Outcome.succeeded.fate from succeeded)
  once := by
    intro j p part
    rw [(Flow.part?_is part).writes]
    exact built.result_once j
  slots := by
    intro j p part w mem
    obtain ⟨id, n, _, node, output⟩ := built.result_within (built.part_writes.mp ⟨p, part, mem⟩)
    refine (Store.forPlan_keys f.plan w.1).mpr (.inr ?_)
    exact List.mem_flatMap.mpr ⟨n, List.mem_of_getElem? node, output⟩
  apart := by
    intro j p i q part part' w mem v mem' same
    exact built.result_apart (built.part_writes.mp ⟨p, part, mem⟩)
      (built.part_writes.mp ⟨q, part', mem'⟩) same
  new := by
    intro j p part w mem
    have notInput := built.result_not_input (built.part_writes.mp ⟨p, part, mem⟩)
    rw [Flow.cast, marked_keys, declared.mem_iff]
    exact notInput

end Built

end KeyFlow
