import KeyFlow.Proofs.Asking
import KeyFlow.Proofs.Parallel.Parts
import KeyFlow.Proofs.Run.Heard

/-!
What becomes of the jobs of independent units in a run. A job that is started ends as its body does,
and the body of a job that is skipped comes to nothing.
-/

namespace KeyFlow

namespace UnitPart

/-- The body, which is answered outside of a flow. -/
def asking (part : UnitPart) : Process Sinks (List Request × Ending Unit) :=
  part.body.asking ⟨part.label, []⟩ (fun _ _ => none) (fun n s => s.note n) []

/-- What the job tells when its body has ended. -/
def events (part : UnitPart) (e : Ending Unit) : List TaskEvent :=
  (WorkUnit.settle part.label part.whole e).1

/-- How the job ends after its body. -/
def conclusion (part : UnitPart) (e : Ending Unit) : Conclusion :=
  (WorkUnit.settle part.label part.whole e).2

/-- The error of a job whose body did not return; it names the job. -/
def error? (part : UnitPart) : Ending Unit → Option Error
  | .returned () => none
  | .failed e => some (.task part.label e.toTrouble)
  | .panicked p => some (.panic (p.within part.label))

/-- The end of the job, without a pause. -/
def finish (tell : Happening → Sinks → Sinks) (part : UnitPart) (a : List Request × Ending Unit) :
    JobBody Sinks :=
  Process.change (Lifecycle.tellAll tell (Lifecycle.ofTask part.unit (part.events a.2)))
    (.done (part.conclusion a.2))

/-- What the body comes to in the run that starts here, as this job. -/
def cameTo (part : UnitPart) (start : Machine Sinks) (job : Nat) : Option (Ending Unit) :=
  (part.asking.replay (start.turns job)).map fun a => a.1.2

/-- What became of a job, by what its body came to. -/
inductive Fares (part : UnitPart) : Option (Ending Unit) → JobState → Prop
  | succeeded : Fares part (some (.returned ())) .succeeded
  | failed (e : Ending Unit) (fault : (part.error? e).isSome = true) : Fares part (some e) .failed
  | skipped (cause : SkipCause) (undone : cause ≠ .declined) : Fares part none (.skipped cause)

variable {part : UnitPart} {tell : Happening → Sinks → Sinks} {e : Ending Unit}

theorem job_body (tell : Happening → Sinks → Sinks) (part : UnitPart) :
    (part.job tell).body = Process.andThen (part.finish tell) part.asking :=
  TaskBody.interpret_eq_asking part.body fun _ e => part.finish tell ([], e)

theorem finish_turn (part : UnitPart) (a : List Request × Ending Unit) (w : World Sinks) :
    (part.finish tell a).turn w = (.inl (part.conclusion a.2), { w with
      shared := Lifecycle.tellAll tell (Lifecycle.ofTask part.unit (part.events a.2)) w.shared }) :=
  rfl

theorem conclusion_error? (part : UnitPart) (e : Ending Unit) :
    (part.conclusion e).error? = part.error? e := by
  cases e <;> rfl

theorem fares_ended (part : UnitPart) (e : Ending Unit) :
    part.Fares (some e) (part.conclusion e).outcome.state := by
  cases e with
  | returned => exact .succeeded
  | failed | panicked => exact .failed _ rfl

/-- A body that writes tells nothing. -/
theorem asking_within (tell : Happening → Sinks → Sinks) (part : UnitPart) :
    part.asking.Within fun s s' => Sinks.Heard tell s [] s' :=
  TaskBody.asking_within (fun _ => .nothing) (fun n _ => .note .nothing n) part.body

end UnitPart

namespace Parallel

/-- A run of the units starts here. -/
structure Launched (p : Parallel) (start : Machine Sinks) : Prop where
  kept : Machine.Kept (p.parts.map (·.after)) start
  told : Machine.Told start start []
  slots : ∀ job : Nat,
    start.slots[job]? = p.parts[job]?.map fun part => .fresh (part.job p.tell).body
  samples : start.TellsSamples p.tell id
  untold : start.timeline = []
  unhalted : start.books.halted = none
  goesOn : start.books.continueOnError = p.settings.continueOnError

namespace Launched

variable {p : Parallel} {start m last : Machine Sinks} {job : Nat} {part : UnitPart}
  {rest : List Nat} {body : JobBody Sinks} {c : Conclusion} {ends : List (Nat × Conclusion)}

/-- The job of a part opens with its body. -/
theorem opens (launched : p.Launched start) (placed : p.parts[job]? = some part) :
    Machine.Opens (Process.Within fun s s' => Sinks.Heard p.tell s [] s') part.asking
      (part.finish p.tell) start job where
  slot := by
    rw [launched.slots, placed, ← part.job_body]
    rfl
  is := part.asking_within p.tell
  keeps := fun _ w next w' within paused =>
    (Process.within_turn (fun _ => .nothing) (fun _ _ _ => .trans) within w).2 next w' paused
  prompt := fun a w => ⟨_, _, part.finish_turn a w⟩

theorem ended (launched : p.Launched start) (placed : p.parts[job]? = some part)
    (ends : start.EndsWith job c) :
    ∃ e, part.cameTo start job = some e ∧ c = part.conclusion e := by
  obtain ⟨_, _, _, _, _, _, _, a, w, w', _, _, last, _, come⟩ :=
    (launched.opens placed).ended launched.kept ends
  rw [part.finish_turn] at last
  cases last
  exact ⟨a.2, by rw [UnitPart.cameTo, come]; rfl, rfl⟩

/-- What became of each job. -/
theorem fares (launched : p.Launched start)
    (rests : Machine.Rests (p.parts.map (·.after)) start last ends)
    (placed : p.parts[job]? = some part) :
    ∃ state, last.books.stateOf job = some state ∧
      part.Fares (part.cameTo start job) state ∧
      (last.slots[job]? = some .spent ↔ (part.cameTo start job).isSome = true) := by
  obtain ⟨state, at_last, ⟨cause, rfl, undone, unspent, turns⟩ | ⟨c, ends, is, spent⟩⟩ :=
    rests.cases (launched.opens placed).slot
  · have came : part.cameTo start job = none := by
      rw [UnitPart.cameTo, turns]
      rfl
    refine ⟨_, at_last, came ▸ .skipped cause undone, fun spent => absurd spent unspent, ?_⟩
    rw [came]
    nofun
  · obtain ⟨e, came, rfl⟩ := launched.ended placed ends
    refine ⟨state, at_last, ?_, fun _ => by rw [came]; rfl, fun _ => spent⟩
    rw [came, is]
    exact part.fares_ended e

/-- Every job that has its turn is that of a part. -/
theorem part_of_polls (launched : p.Launched start) (comes : Machine.Comes start m)
    (polls : m.Polls job rest body) : ∃ part, p.parts[job]? = some part := by
  obtain ⟨_, slot⟩ := polls.slot_at_start comes
  rw [launched.slots] at slot
  obtain ⟨part, placed, _⟩ := Option.map_eq_some_iff.mp slot
  exact ⟨part, placed⟩

theorem part_of_ended (launched : p.Launched start) (ends : start.EndsWith job c) :
    ∃ part, p.parts[job]? = some part := by
  obtain ⟨m, _, _, comes, _, polls, _⟩ := ends
  exact launched.part_of_polls comes polls

/-- The error of a job is that of its body. -/
theorem error_iff (launched : p.Launched start)
    (rests : Machine.Rests (p.parts.map (·.after)) start last ends) {error : Error} :
    (∃ c : Conclusion, start.EndsWith job c ∧ c.error? = some error) ↔
      ∃ part, p.parts[job]? = some part ∧
        (part.cameTo start job).bind part.error? = some error := by
  constructor
  · rintro ⟨c, ends, is⟩
    obtain ⟨part, placed⟩ := launched.part_of_ended ends
    obtain ⟨e, came, rfl⟩ := launched.ended placed ends
    refine ⟨part, placed, ?_⟩
    rw [came, Option.bind_some, ← part.conclusion_error?]
    exact is
  · rintro ⟨part, placed, is⟩
    obtain ⟨e, came, is⟩ := Option.bind_eq_some_iff.mp is
    obtain ⟨state, at_last, ⟨_, _, _, _, turns⟩ | ⟨c, ends, _, _⟩⟩ :=
      rests.cases (launched.opens placed).slot
    · rw [UnitPart.cameTo, turns] at came
      cases came
    · obtain ⟨e', came', rfl⟩ := launched.ended placed ends
      rw [came, Option.some.injEq] at came'
      subst came'
      exact ⟨_, ends, (part.conclusion_error? e).trans is⟩

end Launched

/-! ## Runs -/

/-- What is told before the jobs run. -/
def prelude (p : Parallel) : List Happening :=
  .flowInit :: .schedulerInit :: p.units.map fun u => .taskInit u.name

/-- The jobs of all units, before the first step. -/
def start (p : Parallel) (q : Scheduler Sinks) (token : Token) (sinks : Sinks) : Machine Sinks :=
  q.start (Lifecycle.conditions token p.emitter p.name id)
    (Lifecycle.tellAll p.tell p.prelude sinks)

theorem launched_of_jobs {p : Parallel} {q : Scheduler Sinks}
    (bodies : q.bodies = p.parts.map fun part => (part.job p.tell).body)
    (fresh : Scheduler.Unstarted (p.parts.map (·.after)) q)
    (goesOn : q.books.continueOnError = p.settings.continueOnError) (token : Token)
    (sinks : Sinks) : p.Launched (p.start q token sinks) where
  kept := fresh.kept _ _
  told := fresh.told _ _
  slots := by
    intro job
    rw [show (p.start q token sinks).slots = q.bodies.map .fresh from rfl, bodies, List.map_map]
    exact List.getElem?_map ..
  samples := by
    intro sampling on clock snapshot s
    rw [Scheduler.observe_start on]
    rfl
  untold := rfl
  unhalted := fresh.halted
  goesOn := goesOn

/-- A run of the units is a run of their jobs, and then what is told of it. -/
theorem run_of_jobs {p : Parallel} {units : List (WorkUnit × List Handle)} {q : Scheduler Sinks}
    (jobs : p.jobs = .ok (units, q)) (token : Token) (sinks : Sinks) :
    p.run token sinks =
      (q.run (Lifecycle.conditions token p.emitter p.name id)
        (Lifecycle.tellAll p.tell p.prelude sinks)).map
          (fun report =>
            { result := p.result report.errors
              jobs := some report
              sinks := p.tell .flowDone (p.tell (Lifecycle.verdict (p.result report.errors))
                (Lifecycle.tellAll p.tell (closing units report) report.shared)) }) id := by
  rw [Parallel.run, Lifecycle.around]
  simp only [jobs]
  show Course.map _ _ (Course.map _ _ (q.run _ (Lifecycle.tellAll p.tell p.prelude sinks))) = _
  cases q.run _ (Lifecycle.tellAll p.tell p.prelude sinks) <;> rfl

/-- In a run that is reported all jobs are over. -/
theorem run_cases {p : Parallel} {token : Token} {sinks : Sinks} {r : FlowReport Unit Sinks}
    (run : p.run token sinks = .reported r) :
    ∃ q last report, p.jobs = .ok (p.placed.map handles, q) ∧ q.id = 0 ∧
      p.Launched (p.start q token sinks) ∧ (p.start q token sinks).run = .finished last ∧
      report = Scheduler.report q.id last ∧ r.jobs = some report ∧
      r.result = p.result report.errors ∧
      r.sinks = p.tell .flowDone (p.tell (Lifecycle.verdict r.result)
        (Lifecycle.tellAll p.tell (closing (p.placed.map handles) report) report.shared)) := by
  obtain ⟨q, jobs, id, bodies, fresh, goesOn⟩ := p.jobs_ok
  have launched := launched_of_jobs bodies fresh goesOn token sinks
  rw [run_of_jobs jobs] at run
  obtain ⟨report, reported, rfl⟩ := Course.map_reported run
  obtain ⟨last, finished, rfl⟩ := Scheduler.finished_of_reported reported
  exact ⟨q, last, _, jobs, id, launched, finished, rfl, rfl, rfl, rfl⟩

end Parallel

end KeyFlow
