import KeyFlow.Proofs.Flow.AllOrNothing
import KeyFlow.Proofs.Flow.Complete
import KeyFlow.Proofs.Flow.Supplied

/-!
No error of the machinery itself comes out of a run of a flow that was built. The inputs find their
slots, every job is taken in behind all that it waits for, and a job that has its turn finds all
that it relies on; so whatever goes wrong is the fault of a body or of the caller.
-/

namespace KeyFlow

/-- The error is one of the scheduler or of the store, and not of a task, of the inputs or of a
cancellation. -/
def Error.IsInternal (e : Error) : Prop := ∃ what, e = .scheduler what

theorem Failure.toError_not_internal (f : Failure) (task : String) :
    ¬ (f.toError task).IsInternal := by
  rintro ⟨what, no⟩
  cases f <;> cases no

namespace FlowUnit

variable {u : FlowUnit} {a : Act} {fin : Finale} {err : Error}

theorem Finishes.not_internal (finishes : u.Finishes a fin) (fails : fin.ending.error? = some err) :
    ¬ err.IsInternal := by
  cases finishes with
  | declined | succeeded | recovered => cases fails
  | failed f =>
    cases fails
    exact f.toError_not_internal _

theorem ruling_not_internal {gate : Gate} {e : Ending Bool}
    (fails : (u.ruling gate e).ending.error? = some err) : ¬ err.IsInternal := by
  rw [ruling] at fails
  split at fails
  · cases fails
  · rename_i f _
    cases fails
    exact (f.inContext _).toError_not_internal _

end FlowUnit

/-! ## Turns -/

/-- A job that has its turn now finds all that it relies on. -/
structure Flow.Equipped (f : Flow) (m : Machine FlowState) (job : Nat) : Prop where
  /-- Its outputs have slots, and nothing is in them. -/
  free : ∀ (id : NodeId) n, f.plan.enqueueOrder[job]? = some id → f.plan.graph.nodes[id]? = some n →
    ∀ k ∈ n.outputs, m.shared.store.IsFree k
  /-- A gated task finds what its predicate came to, and where that is a fault, the values that
  stand in for its outputs. -/
  verdict : ∀ (i : Nat) u gate, f.unit? i = some u → f.plan.enqueueOrder[job]? = some u.task.node →
    u.task.gate = some gate → ∃ v, m.shared.store.verdict? gate.sentinel = some v ∧
      ∀ fault, v = .faulted fault → ∃ values, u.work.fallback = some values ∧
        values.length = u.task.outputs.length
  /-- A predicate finds its check. -/
  check : ∀ (i : Nat) u gate, f.unit? i = some u → u.task.gate = some gate →
    f.plan.enqueueOrder[job]? = some gate.node → u.work.check.isSome = true

namespace Opened

variable {s : FlowSpec} {f : Flow} {inputs : List (Key × Value)} {start m : Machine FlowState}
  {job : Nat} {rest : List Nat} {body : JobBody FlowState} {c : Conclusion} {e : Error}

theorem equipped (opened : Opened s f inputs start) (comes : Machine.Comes start m)
    (polls : m.Polls job rest body) : f.Equipped m job where
  free := fun id n placed node k output => (opened.delivering.comes comes).free job _ polls.slot
    nofun k ⟨id, n, placed, node, output⟩
  verdict := by
    intro i u gate found placed gated
    obtain ⟨v, there, stands⟩ := opened.verdict_of_polls found gated placed comes polls
    refine ⟨v, there, fun fault faulted => ?_⟩
    obtain ⟨values, fallback⟩ := Option.isSome_iff_exists.mp (stands fault faulted)
    exact ⟨values, fallback, (opened.compiled.formed_of_unit found).fallback values fallback⟩
  check := fun _ _ _ found gated _ =>
    (opened.compiled.formed_of_unit found).checked (by rw [gated]; rfl)

/-- No job ends with an error of the machinery. -/
theorem end_not_internal (opened : Opened s f inputs start) (ends : start.EndsWith job c)
    (fails : c.error? = some e) : ¬ e.IsInternal := by
  obtain ⟨m, rest, body, comes, resting, polls, ended⟩ := ends
  obtain ⟨id, placed⟩ := opened.node_of_polls comes polls
  obtain ⟨i, u, found, rfl | ⟨gate, gated, rfl⟩⟩ := opened.compiled.unit_at placed
  · obtain ⟨a, _, sound, done⟩ := opened.task_closes found placed comes resting polls ended
    rw [done.ending] at fails
    exact ((opened.compiled.formed_of_unit found).finale_finishes sound).not_internal fails
  · obtain ⟨verdict, _, done⟩ := opened.gate_closes found gated placed comes resting polls ended
    rw [done.ending] at fails
    exact FlowUnit.ruling_not_internal fails

/-- The recorded errors are those with which jobs ended. -/
theorem error_not_internal (opened : Opened s f inputs start) {ends : List (Nat × Conclusion)}
    (told : Machine.Told start m ends) (mem : e ∈ m.errors) : ¬ e.IsInternal := by
  rw [told.errors] at mem
  obtain ⟨⟨job, c⟩, listed, fails⟩ := List.mem_filterMap.mp mem
  exact opened.end_not_internal (told.history _ (List.mem_append_left _ listed)) fails

/-- A report lists the errors that were recorded, and perhaps a cancellation. -/
theorem report_not_internal (opened : Opened s f inputs start) {last : Machine FlowState}
    (finished : start.run = .finished last) (q : Scheduler FlowState) :
    ∀ e ∈ (Scheduler.report q.id last).errors, ¬ e.IsInternal := by
  obtain ⟨ends, rests⟩ := opened.kept.rests opened.told finished
  intro e mem
  rw [Scheduler.report_errors rests.told.seen] at mem
  split at mem
  · rw [List.mem_singleton.mp mem]
    rintro ⟨what, no⟩
    cases no
  · exact opened.error_not_internal rests.told mem

end Opened

theorem Report.mem_errors_of_result {σ : Type} {r : Report σ} {e : Error}
    (failed : r.result = .error e) : e ∈ r.errors := by
  rw [result] at failed
  cases listed : r.errors with
  | nil =>
    rw [listed] at failed
    cases failed
  | cons first others =>
    rw [listed] at failed
    cases failed
    exact List.mem_cons_self ..

/-! ## Flows that were built -/

/-- The running parts of the tasks stand with the declarations that they belong to. -/
structure Flow.Aligned (s : FlowSpec) (f : Flow) : Prop where
  units : ∀ i t, s.tasks[i]? = some t → ∃ u, f.unit? i = some u ∧ u.index = i ∧
    u.task.name = t.name ∧ u.task.inputs = t.signature.inputs ∧
    u.task.outputs = t.signature.outputs ∧ t.work? = some u.work
  fallbacks : ∀ (i : Nat) u values, f.unit? i = some u → u.work.fallback = some values →
    values.length = u.task.outputs.length
  nodes : ∀ id < f.plan.graph.nodes.length, (f.job? id).isSome = true

namespace Compiled

variable {s : FlowSpec} {f : Flow} {inputs : List (Key × Value)}

theorem aligned (compiled : Compiled s f) : f.Aligned s where
  units := by
    intro i t placed
    obtain ⟨work, works, found⟩ := compiled.unit_ok placed
    exact ⟨_, found, rfl, rfl, rfl, rfl, works⟩
  fallbacks := fun _ _ _ found => (compiled.formed_of_unit found).fallback _
  nodes := by
    intro id inRange
    have body := compiled.jobBody_isSome inRange
    rwa [Option.isSome_map] at body

theorem receptive (compiled : Compiled s f) : f.plan.Receptive :=
  compiled.plan ▸ compiled.sourced.receptive

theorem seeded_not_internal (compiled : Compiled s f) {e : InputError}
    (refused : Store.seeded f.plan inputs = .error e) : ¬ e.toError.IsInternal := by
  obtain ⟨what, is⟩ := (Store.seeded_concerns compiled.receptive refused).inputs
  rintro ⟨why, no⟩
  rw [is] at no
  cases no

theorem run_ne_fault (compiled : Compiled s f) (token : Token) (sinks : Sinks) (fault : Fault) :
    f.run inputs token sinks ≠ .fault fault := by
  intro run
  rw [Flow.run, Lifecycle.around] at run
  cases seeded : Store.seeded f.plan inputs with
  | error e =>
    rw [seeded] at run
    cases run
  | ok store =>
    obtain ⟨handles, q, jobs, fresh, _⟩ := compiled.jobs_ok
    simp only [seeded, Flow.runJobs, jobs, Scheduler.run] at run
    split at run
    case h_4 met =>
      exact (fresh.kept _ _).run_ne_fault _ met
    all_goals cases run

end Compiled

/-- Whatever its inputs are, what its bodies do and how it is cancelled, in a run of a flow that was
built nothing goes wrong with the machinery itself. The running parts stand with their tasks, no
value for an input is refused by its slot, and all jobs are taken in behind all that they depend on.
At every moment a job that has its turn finds its slots free, the verdict of its predicate or the
check that it is to run, and one value to stand in for each output where its predicate went wrong.
So no job ends with an error of the scheduler or the store, none is ever recorded, and the run comes
neither to such an error nor to a fault. -/
theorem Flow.no_internal_error (s : FlowSpec) (f : Flow) (built : s.build = .ok f)
    (inputs : List (Key × Value)) (token : Token) (sinks : Sinks) :
    f.Aligned s ∧
    (∀ e, Store.seeded f.plan inputs = .error e → ¬ e.toError.IsInternal) ∧
    (∃ handles q, f.jobs = .ok (handles, q) ∧ f.Linked ∧
      (∀ id, (handles.lookup id).isSome = true ↔ f.plan.graph.Reached id) ∧
      ∀ store, Store.seeded f.plan inputs = .ok store →
        (∀ m, Machine.Comes (f.start q token store sinks) m →
          (∀ e ∈ m.errors, ¬ e.IsInternal) ∧
          ∀ job rest body, m.Polls job rest body → f.Equipped m job) ∧
        ∀ job c e, (f.start q token store sinks).EndsWith job c → c.error? = some e →
          ¬ e.IsInternal) ∧
    (∀ fault, f.run inputs token sinks ≠ .fault fault) ∧
    ∀ r, f.run inputs token sinks = .reported r →
      (∀ e, r.result = .error e → ¬ e.IsInternal) ∧
      ∀ report, r.jobs = some report → ∀ e ∈ report.errors, ¬ e.IsInternal := by
  have compiled := Compiled.of_build built
  refine ⟨compiled.aligned, fun e => compiled.seeded_not_internal, ?_,
    compiled.run_ne_fault token sinks, fun r run => ?_⟩
  · obtain ⟨handles, q, jobs, entered⟩ := compiled.jobs_enqueued
    refine ⟨handles, q, jobs, compiled.linked, fun id => compiled.hasHandle_iff entered,
      fun store seeded => ?_⟩
    have opened := compiled.opened entered.all.1 entered.all.2 seeded token
      (Lifecycle.tellAll f.tell f.prelude sinks)
    refine ⟨fun m comes => ⟨fun e mem => ?_, fun job rest body => opened.equipped comes⟩,
      fun job c e ends => opened.end_not_internal ends⟩
    obtain ⟨ends, told⟩ := comes.told opened.kept opened.told
    exact opened.error_not_internal told mem
  · rcases f.run_cases compiled run with ⟨e, refused, result, noJobs, _⟩ |
      ⟨store, handles, q, last, report, _, _, _, opened, finished, rfl, jobs, result, _⟩
    · refine ⟨fun e' failed => ?_, fun report no => ?_⟩
      · rw [result, Except.error.injEq] at failed
        exact failed ▸ compiled.seeded_not_internal refused
      · rw [noJobs] at no
        cases no
    · have errors := opened.report_not_internal finished q
      refine ⟨fun e failed => ?_, fun report is => ?_⟩
      · rw [result] at failed
        refine errors e (Report.mem_errors_of_result ?_)
        cases own : (Scheduler.report q.id last).result with
        | ok _ =>
          rw [own] at failed
          cases failed
        | error e' =>
          rw [own] at failed
          cases failed
          rfl
      · rw [jobs, Option.some.injEq] at is
        exact is ▸ errors

/-- The gated flow is run on its input, and once more without it. -/
theorem Flow.no_internal_error_gated :
    FlowSpec.gated.build = .ok gated ∧ gated.Aligned FlowSpec.gated ∧
    (∃ r handles q store, gated.run [(.named "in", .untyped (.int 1))] {} {} = .reported r ∧
      gated.jobs = .ok (handles, q) ∧
      Store.seeded gated.plan [(.named "in", .untyped (.int 1))] = .ok store ∧
      (∀ m, Machine.Comes (gated.start q {} store {}) m → ∀ e ∈ m.errors, ¬ e.IsInternal) ∧
      ∀ e, r.result = .error e → ¬ e.IsInternal) ∧
    ∃ r, gated.run [] {} {} = .reported r ∧ ∀ e, r.result = .error e → ¬ e.IsInternal := by
  have holds (inputs : List (Key × Value)) := no_internal_error FlowSpec.gated gated
    FlowSpec.gated_build inputs {} {}
  have compiled := Compiled.of_build FlowSpec.gated_build
  obtain ⟨store, seeded⟩ := gated_seeded
  obtain ⟨aligned, _, ⟨handles, q, jobs, _, _, all⟩, _, reports⟩ :=
    holds [(.named "in", .untyped (.int 1))]
  obtain ⟨r, run⟩ :=
    compiled.reported FlowSpec.gated_unwaiting [(.named "in", .untyped (.int 1))] {} {}
  obtain ⟨r', run'⟩ := compiled.reported FlowSpec.gated_unwaiting [] {} {}
  exact ⟨FlowSpec.gated_build, aligned,
    ⟨r, handles, q, store, run, jobs, seeded, fun m comes => ((all store seeded).1 m comes).1,
      (reports r run).1⟩,
    r', run', ((holds []).2.2.2.2 r' run').1⟩

end KeyFlow
