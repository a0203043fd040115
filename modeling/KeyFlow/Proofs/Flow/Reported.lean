import KeyFlow.Proofs.Flow.Opened

/-!
Runs of a flow that are reported. A job waits for nothing but what its bodies wait for; so where no
body waits for a cancellation, every run is reported.
-/

namespace KeyFlow

/-- No body of the task waits for a cancellation. -/
structure FlowTask.Unwaiting (t : FlowTask) : Prop where
  body : ∀ body, t.body = some body → body.Unwaiting
  check : ∀ p check, t.predicate = some p → p.check = some check → check.Unwaiting

theorem Process.attempt_unwaiting {σ α ε : Type} {f : σ → Except ε Unit × σ}
    {onError : ε → Process σ α} {next : Process σ α}
    (refused : ∀ e, (onError e).Unwaiting) (rest : next.Unwaiting) :
    (attempt f onError next).Unwaiting := by
  intro s
  dsimp only
  split
  · exact rest
  · exact refused _

namespace FlowUnit

variable {u : FlowUnit} {tell : Happening → Sinks → Sinks}

theorem commit_unwaiting (pairs : List (Key × Value)) (events refused : List TaskEvent) :
    (u.commit tell pairs events refused).Unwaiting :=
  Process.attempt_unwaiting (fun _ _ => trivial) fun _ => trivial

theorem settle_unwaiting (taken : Except Failure (List (Key × Value))) :
    (u.settle tell taken).Unwaiting := by
  cases taken with
  | ok pairs => exact commit_unwaiting pairs _ _
  | error f =>
    rw [settle]
    cases u.work.fallback with
    | some values => exact commit_unwaiting _ _ _
    | none => exact fun _ => trivial

theorem runBody_unwaiting (body : u.work.body.Unwaiting) : (u.runBody tell).Unwaiting :=
  fun _ => Body.interpret_unwaiting (fun _ _ => settle_unwaiting _) body _

theorem follow_unwaiting (body : u.work.body.Unwaiting) (v : Verdict) :
    (u.follow tell v).Unwaiting := by
  cases v with
  | run => exact runBody_unwaiting body
  | skip => trivial
  | faulted f =>
    intro _
    cases u.work.fallback with
    | some values => exact commit_unwaiting _ _ _
    | none => trivial

/-- The job of a task waits for nothing but its body does. -/
theorem taskBody_unwaiting (body : u.work.body.Unwaiting) : (u.taskBody tell).Unwaiting := by
  rw [taskBody]
  cases u.task.gate with
  | none => exact runBody_unwaiting body
  | some gate =>
    intro s
    dsimp only
    split
    · exact follow_unwaiting body _
    · trivial

theorem conclude_unwaiting (gate : Gate) (verdict : Except Failure Verdict) :
    (u.conclude tell gate verdict).Unwaiting := by
  cases verdict with
  | ok v => exact Process.attempt_unwaiting (fun _ => trivial) trivial
  | error f => exact fun _ => trivial

/-- The job of a predicate waits for nothing but its check does. -/
theorem predicateBody_unwaiting (unwaiting : ∀ check, u.work.check = some check → check.Unwaiting) :
    (u.predicateBody tell).Unwaiting := by
  rw [predicateBody]
  split
  · rename_i gate check _ checked
    exact Body.interpret_unwaiting (fun _ _ => conclude_unwaiting gate _)
      (unwaiting check checked) _
  · trivial

end FlowUnit

namespace Compiled

variable {s : FlowSpec} {f : Flow}

theorem jobBody_unwaiting (compiled : Compiled s f) (unwaiting : ∀ t ∈ s.tasks, t.Unwaiting)
    {body : JobBody FlowState} (mem : body ∈ f.jobBodies) : body.Unwaiting := by
  obtain ⟨job, found⟩ := List.mem_iff_getElem?.mp mem
  rw [compiled.jobBodies_at, Option.bind_eq_some_iff] at found
  obtain ⟨id, placed, found⟩ := found
  obtain ⟨i, u, unitFound, is⟩ := compiled.unit_at placed
  obtain ⟨t, work, declared, works, rfl⟩ := compiled.of_unit unitFound
  have task := unwaiting t (List.mem_of_getElem? declared)
  obtain ⟨own, there, rfl⟩ := Option.map_eq_some_iff.mp works
  rcases is with rfl | ⟨gate, gated, rfl⟩
  · rw [(compiled.nodes_of_unit unitFound).1.body, Option.some.injEq] at found
    exact found ▸ FlowUnit.taskBody_unwaiting (task.body own there)
  · rw [((compiled.nodes_of_unit unitFound).2 gate gated).body, Option.some.injEq] at found
    refine found ▸ FlowUnit.predicateBody_unwaiting fun check checked => ?_
    obtain ⟨p, predicate, is⟩ := Option.bind_eq_some_iff.mp checked
    exact task.check p check predicate is

/-- Unless a body waits for a cancellation, a run is reported. -/
theorem reported (compiled : Compiled s f) (unwaiting : ∀ t ∈ s.tasks, t.Unwaiting)
    (inputs : List (Key × Value)) (token : Token) (sinks : Sinks) :
    ∃ r, f.run inputs token sinks = .reported r := by
  rw [Flow.run, Lifecycle.around]
  cases Store.seeded f.plan inputs with
  | error e => exact ⟨_, rfl⟩
  | ok store =>
    obtain ⟨handles, q, jobs, fresh, bodies⟩ := compiled.jobs_ok
    obtain ⟨report, reported⟩ := fresh.reported
      (fun body mem => compiled.jobBody_unwaiting unwaiting (bodies ▸ mem))
      (c := Lifecycle.conditions token f.emitter f.name FlowState.onSinks) rfl
      { store, sinks := Lifecycle.tellAll f.tell f.prelude sinks }
    simp only [Flow.runJobs, jobs]
    show ∃ r, Course.map _ _ (Course.map _ _ (q.run _
      { store, sinks := Lifecycle.tellAll f.tell f.prelude sinks })) = .reported r
    rw [reported]
    exact ⟨_, rfl⟩

end Compiled

/-! ## The gated flow -/

theorem TaskBody.after_unwaiting {α : Type} {millis : Nat} {k : Key} {next : Value → TaskBody α}
    (rest : ∀ v, (next v).Unwaiting) : (TaskBody.after millis k next).Unwaiting := by
  rintro (e | v)
  · trivial
  · exact fun _ => rest v

theorem FlowSpec.gated_unwaiting : ∀ t ∈ gated.tasks, t.Unwaiting := by
  intro t mem
  rw [List.mem_singleton.mp mem]
  constructor
  · rintro body ⟨⟩
    exact TaskBody.after_unwaiting fun v _ => trivial
  · rintro p check ⟨⟩ ⟨⟩
    exact TaskBody.after_unwaiting fun v => trivial

end KeyFlow
