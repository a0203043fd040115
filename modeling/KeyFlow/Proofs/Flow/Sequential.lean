import KeyFlow.Proofs.Flow.Narrowed
import KeyFlow.Proofs.Flow.Opening

/-!
A flow run computes what its sequential evaluation computes, whatever its limit and its emitter are,
however long its bodies sleep, and in whatever order its jobs come to their ends. The evaluation
goes through all nodes of the plan; only those that are reached have jobs.
-/

namespace KeyFlow

namespace Built

variable {s : FlowSpec} {f : Flow} {inputs : List (Key × Value)}

/-- A node of the evaluation failed just if some job is to fail. -/
theorem failed_iff (built : Built s f) :
    (∀ id, f.plan.graph.Reached id → (f.evaluate inputs).fateOf id ≠ some .failed) ↔
      ∀ j p, f.part? inputs j = some p → p.outcome ≠ .failed := by
  have fate {id : NodeId} (scheduled : id ∈ f.plan.enqueueOrder) {fate : Fate} :
      (f.evaluate inputs).fateOf id = some fate ↔ ∃ j < f.plan.enqueueOrder.length,
        f.plan.enqueueOrder[j]? = some id ∧ (f.resultAt inputs j).1 = fate := by
    rw [(built.evaluate_agree inputs).fates id scheduled, Flow.evaluateJobs_eq]
    exact Flow.fateOf_iff built.enqueueOrder_nodup (Nat.le_refl _)
  constructor
  · intro fine j p part fails
    obtain ⟨id, placed, is, _⟩ := Flow.part?_cases part
    have scheduled := List.mem_of_getElem? placed
    refine fine id (built.mem_enqueueOrder.mp scheduled) ((fate scheduled).mpr ⟨j, ?_, placed, ?_⟩)
    · exact (List.getElem?_eq_some_iff.mp placed).1
    · rw [is, fails]
      rfl
  · intro fine id reached failed
    obtain ⟨j, _, _, fate⟩ := (fate (built.mem_enqueueOrder.mpr reached)).mp failed
    obtain ⟨p, part, fails⟩ := Flow.part?_outcome.mpr (show _ = Outcome.failed.fate from fate)
    exact fine j p part fails

/-- What the jobs are to leave behind is what the evaluation comes to. -/
theorem marks_iff (built : Built s f)
    (declared : (inputs.map (·.1)).Perm (s.inputs.map (·.key))) {k : Key} {m : Mark} :
    (f.evaluateJobs inputs).mark? k = some m ↔
      (k, m) ∈ marked inputs ∨ ∃ j p, f.part? inputs j = some p ∧ (k, m) ∈ p.writes := by
  rw [Flow.evaluateJobs_eq, built.mark?_iff declared, Flow.mem_marks]
  refine or_congr Iff.rfl (exists_congr fun j => ?_)
  rw [built.part_writes]
  refine ⟨And.right, fun mem => ⟨?_, mem⟩⟩
  obtain ⟨id, n, placed, _⟩ := built.result_within mem
  exact (List.getElem?_eq_some_iff.mp placed).1

/-- The jobs of a flow run to an end that the evaluation foresees. -/
theorem jobs_finish (built : Built s f)
    (declared : (inputs.map (·.1)).Perm (s.inputs.map (·.key))) :
    ∃ store handles q, Store.seeded f.plan inputs = .ok store ∧ f.jobs = .ok (handles, q) ∧
      Scheduler.Unstarted f.jobDeps q ∧ q.bodies = f.jobBodies ∧ ∀ sinks, ∃ m, (q.start (Lifecycle.conditions {} f.emitter f.name FlowState.onSinks)
          { store, sinks }).run = .finished m ∧ (m.seen = false ∧ m.cancelled = false) ∧
        (m.errors = [] ↔ ∀ id, f.plan.graph.Reached id →
          (f.evaluate inputs).fateOf id ≠ some .failed) ∧
        (m.errors = [] → ∀ k ∈ s.outputs.map (·.key),
          m.shared.store.value? k = (f.evaluate inputs).value? k) := by
  obtain ⟨store, seeded, holds⟩ := built.seeded_holds declared
  obtain ⟨handles, q, jobs, fresh, bodies⟩ := built.jobs_ok
  refine ⟨store, handles, q, seeded, jobs, fresh, bodies, fun sinks => ?_⟩
  have played := fresh.played bodies f.emitter f.name { store, sinks } holds
  obtain ⟨m, run, calm, fine, left⟩ :=
    played.run_finished (fresh.kept _ _) (built.cast_fits declared)
  refine ⟨m, run, calm, fine.trans built.failed_iff.symm, fun noErrors k output => ?_⟩
  have matters : f.Matters k := .inl (by rwa [built.outputs])
  rw [Store.value?_eq, Evaluation.value?, (built.evaluate_agree inputs).marks k matters]
  congr 1
  ext mark
  rw [left noErrors, built.marks_iff declared]
  rfl

/-- A run without cancellation is reported as its errors say. -/
theorem run_reported (built : Built s f)
    (declared : (inputs.map (·.1)).Perm (s.inputs.map (·.key))) (sinks : Sinks) :
    ∃ (m : Machine FlowState) (r : FlowReport FlowResults FlowState),
      f.run inputs {} sinks = .reported r ∧
      r.result = (match m.errors with
        | [] => .ok ⟨m.shared.store, s.outputs.map (·.key)⟩
        | e :: _ => .error e) ∧
      (m.errors = [] ↔ ∀ id, f.plan.graph.Reached id →
        (f.evaluate inputs).fateOf id ≠ some .failed) ∧
      (m.errors = [] → ∀ k ∈ s.outputs.map (·.key),
        m.shared.store.value? k = (f.evaluate inputs).value? k) := by
  obtain ⟨store, handles, q, seeded, jobs, _, _, finish⟩ := built.jobs_finish declared
  obtain ⟨m, run, calm, fine, values⟩ := finish (Lifecycle.tellAll f.tell
    ((f.plan.graph.tasks.map fun t => .taskInit t.name) ++ [.schedulerInit])
    (f.tell .flowInit sinks))
  have errors : (Scheduler.report q.id m).errors = m.errors := by
    rw [Scheduler.report, calm.1, calm.2, Bool.or_false, Bool.and_false]
    rfl
  let report := Scheduler.report q.id m
  let result := report.result.map fun () =>
    (⟨m.shared.store, f.plan.graph.outputs.map Declared.key⟩ : FlowResults)
  refine ⟨m, ⟨result, some report, f.tell .flowDone (f.tell (Lifecycle.verdict result)
    (Lifecycle.tellAll f.tell (f.closing handles report) m.shared.sinks))⟩, ?_, ?_, fine, values⟩
  · rw [Flow.run, Lifecycle.around]
    simp only [seeded, Flow.runJobs, jobs, Scheduler.run, run]
    rfl
  · show Except.map _ report.result = _
    rw [Report.result, errors, built.outputs]
    cases m.errors <;> rfl

end Built

namespace TaskBody

variable {α : Type} {c : TaskContext} {values : Key → Option Value} {own : Staging}
  {cancelled : Bool} {millis : Nat} {k : Key} {next : Value → TaskBody α} {v : Value}

theorem after_always {good : Staging → Ending α → Prop} (listed : k ∈ c.inputs)
    (found : values k = some v) (rest : (next v).Always c values good cancelled own) :
    (after millis k next).Always c values good cancelled own := by
  have read : c.read values k false = .ok v := by
    rw [TaskContext.read, if_pos listed, found]
    rfl
  simp only [after, Body.Always, TaskContext.reply, TaskContext.answer, read]
  exact fun _ => rest

theorem after_evaluate (listed : k ∈ c.inputs) (found : values k = some v) :
    (after millis k next).evaluate c values cancelled own =
      (next v).evaluate c values cancelled own := by
  have read : c.read values k false = .ok v := by
    rw [TaskContext.read, if_pos listed, found]
    rfl
  simp only [after, Body.evaluate, TaskContext.reply, TaskContext.answer, read]

end TaskBody

theorem FlowSpec.gated_steady : ∀ t ∈ gated.tasks, t.Steady := by
  have listed := List.mem_singleton_self (Key.named "in")
  have admitted {task : String} {values : Key → Option Value}
      (given : TaskContext.Admits ⟨task, [.named "in"]⟩ values) :
      ∃ v, values (.named "in") = some v :=
    Option.isSome_iff_exists.mp ((given (.named "in") listed).resolve_right nofun)
  intro t mem
  rw [List.mem_singleton.mp mem]
  constructor
  · rintro body ⟨⟩ values given
    obtain ⟨v, found⟩ := admitted given
    refine TaskBody.after_always listed found ?_
    rw [TaskBody.outputs?, TaskBody.after_evaluate listed found]
    rfl
  · rintro p check ⟨⟩ ⟨⟩ values given
    obtain ⟨v, found⟩ := admitted given
    refine TaskBody.after_always listed found ?_
    rw [TaskBody.truth?, TaskBody.after_evaluate listed found]
    rfl

/-- The gated flow takes its input in. -/
theorem Flow.gated_seeded :
    ∃ store, Store.seeded gated.plan [(.named "in", .untyped (.int 1))] = .ok store := by
  have built : Built .gated gated :=
    .of_build FlowSpec.gated_build FlowSpec.gated_steady
  have given : ([(.named "in", .untyped (.int 1))].map (fun i : Key × Value => i.1)).Perm
      (FlowSpec.gated.inputs.map (·.key)) := .refl _
  obtain ⟨store, seeded, _⟩ := built.seeded_holds given
  exact ⟨store, seeded⟩

end KeyFlow
