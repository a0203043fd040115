import KeyFlow.Proofs.Parallel.Outcome
import KeyFlow.Proofs.Run.Order

/-!
The result of a run of independent units. It is made of the failures of the jobs in the order in
which they were recorded; which jobs are started depends on whether the run goes on after a failure.
-/

namespace KeyFlow

/-! ## Declarations -/

namespace ParallelSpec

variable {s : ParallelSpec} {p : Parallel}

theorem of_build (built : s.build = .ok p) :
    p = ⟨s.name, s.units.filterMap UnitDecl.unit?, s.settings, s.emitter⟩ ∧
      ∀ d ∈ s.units, d.issue? s.settings.continueOnError = none := by
  rw [build] at built
  split at built
  · rename_i clean
    exact ⟨(Except.ok.inj built).symm,
      List.filterMap_eq_nil_iff.mp (List.append_eq_nil_iff.mp clean).2⟩
  · cases built

/-- Every declaration stands for a unit. -/
theorem units_of_build (built : s.build = .ok p) :
    p.units.map some = s.units.map UnitDecl.unit? := by
  obtain ⟨rfl, fine⟩ := of_build built
  have declared (d : UnitDecl) (mem : d ∈ s.units) : d.unit?.map some = some d.unit? := by
    cases d with
    | task name location body =>
      cases body with
      | none => cases fine _ mem
      | some body => rfl
    | fanOut => rfl
  rw [List.map_filterMap, List.filterMap_congr declared]
  exact congrFun List.filterMap_eq_map s.units

/-- In a run that goes on after failures nothing ends a slice or a map. -/
theorem unended_of_build (built : s.build = .ok p) (goesOn : p.settings.continueOnError = true)
    {name : String} {items : List UnitBody} {finish : Option UnitBody}
    (mem : .fanOut name items finish ∈ p.units) : finish = none := by
  obtain ⟨rfl, fine⟩ := of_build built
  obtain ⟨d, declared, is⟩ := List.mem_filterMap.mp mem
  have fine := fine d declared
  cases d with
  | task name location body =>
    obtain ⟨_, _, no⟩ := Option.map_eq_some_iff.mp is
    cases no
  | fanOut kind name location items finish =>
    cases is
    rw [UnitDecl.issue?, goesOn, Bool.and_true] at fine
    cases finish with
    | none => rfl
    | some _ => cases fine

end ParallelSpec

/-! ## Jobs that are started -/

namespace Report

variable {σ : Type}

/-- The job was started once, and its body began once. -/
def StartsOnce (r : Report σ) (start : Machine σ) (job : Nat) : Prop :=
  r.timeline.count (.started job) = 1 ∧ ∃! m, start.Begins m job

/-- The job was not started, and its body never began. -/
def NeverStarts (r : Report σ) (start : Machine σ) (job : Nat) : Prop :=
  .started job ∉ r.timeline ∧ ∀ m, ¬ start.Begins m job

variable {r : Report σ} {start last : Machine σ} {failures : List (Nat × Error)} {job : Nat}
  {state : JobState}

theorem Tells.startsOnce (tells : r.Tells start last failures)
    (found : r.states[job]? = some state) (started : state.wasStarted = true) :
    r.StartsOnce start job :=
  ⟨by rw [tells.started job state found, if_pos started], tells.begun job state found started⟩

theorem Tells.neverStarts (tells : r.Tells start last failures)
    (found : r.states[job]? = some state) (unstarted : state.wasStarted = false) :
    r.NeverStarts start job := by
  refine ⟨List.count_eq_zero.mp ?_, tells.unbegun job state found unstarted⟩
  rw [tells.started job state found, unstarted]
  rfl

end Report

namespace Parallel

/-- The body that ends a slice or a map of this many elements, the first of which has this number:
it starts behind all elements or not at all, and only a halt of the run keeps it from its start. -/
structure EndsFanOut (p : Parallel) (start last : Machine Sinks) (report : Report Sinks)
    (first count : Nat) : Prop where
  once : report.StartsOnce start (first + count) ∨ report.NeverStarts start (first + count)
  behind : ∀ before after, report.timeline = before ++ .started (first + count) :: after →
    ∀ i < count, .recorded (first + i) .succeeded ∈ before ∧
      ∃ part, p.parts[first + i]? = some part ∧
        part.cameTo start (first + i) = some (.returned ())
  starts : (∀ i < count, report.states[first + i]? = some .succeeded) →
    report.StartsOnce start (first + count) ∨
    (report.states[first + count]? = some (.skipped .flowFailed) ∧
      ∃ job : Nat, report.states[job]? = some .failed) ∨
    (report.states[first + count]? = some (.skipped .cancelled) ∧ last.cancelled = true)

/-- How a run of the units ends in which these jobs failed with these errors. -/
structure Concludes (p : Parallel) (start last : Machine Sinks) (report : Report Sinks)
    (failures : List (Nat × Error)) (result : Except Error Unit) : Prop where
  /-- The failures stand in the order in which the ends of the jobs were recorded. -/
  recorded : failures.map (·.1) = report.timeline.filterMap Moment.failed?
  failed : ∀ job : Nat, report.states[job]? = some .failed ↔ job ∈ failures.map (·.1)
  /-- Each error is what the job's own body came to, under the job's label. -/
  named : ∀ job e, (job, e) ∈ failures ↔ ∃ part, p.parts[job]? = some part ∧
    (part.cameTo start job).bind part.error? = some e
  fine : failures = [] → result = if last.cancelled then .error .cancelled else .ok ()
  first : p.settings.continueOnError = false → ∀ e es, failures = e :: es → result = .error e.2
  only : p.settings.continueOnError = true → ∀ e, failures = [e] → result = .error e.2
  all : p.settings.continueOnError = true → 2 ≤ failures.length →
    result = .error (.multiple (failures.map (·.2)))
  halts : p.settings.continueOnError = false → ∀ before job after,
    report.timeline = before ++ .started job :: after → ∀ k, .recorded k .failed ∉ before
  complete : p.settings.continueOnError = true → last.cancelled = false →
    ∀ job < p.parts.length, report.StartsOnce start job
  ending : ∀ name items finish first, (.fanOut name items (some finish), first) ∈ p.placed →
    p.EndsFanOut start last report first items.length

variable {p : Parallel}

/-! ## The result -/

theorem result_of_stopped (stops : p.settings.continueOnError = false) (e : Error)
    (es : List Error) : p.result (e :: es) = .error e := by
  cases es with
  | nil => rfl
  | cons => simp [result, stops]

theorem result_of_many (goesOn : p.settings.continueOnError = true) {es : List Error}
    (many : 2 ≤ es.length) : p.result es = .error (.multiple es) := by
  match es, many with
  | e :: e' :: es, _ => simp [result, goesOn]

namespace Launched

variable {s : ParallelSpec} {start last : Machine Sinks} {ends : List (Nat × Conclusion)}
  {job : Nat} {part : UnitPart} {id : Nat}

theorem after_at (partAt : p.parts[job]? = some part) :
    (p.parts.map (·.after))[job]?.getD [] = part.after := by
  rw [List.getElem?_map, partAt]
  rfl

/-- A job behind jobs that all succeeded is started, unless the run was halted. -/
theorem started_or_halted (launched : p.Launched start)
    (rests : Machine.Rests (p.parts.map (·.after)) start last ends)
    (orderly : Machine.Orderly (p.parts.map (·.after)) p.settings.continueOnError last)
    (partAt : p.parts[job]? = some part)
    (all : ∀ d ∈ part.after, last.books.stateOf d = some .succeeded) :
    (∃ state, last.books.stateOf job = some state ∧ state.wasStarted = true) ∨
      (last.books.stateOf job = some (.skipped .cancelled) ∧ last.cancelled = true) ∨
      (last.books.stateOf job = some (.skipped .flowFailed) ∧
        p.settings.continueOnError = false ∧ ∃ k, last.books.stateOf k = some .failed) := by
  obtain ⟨state, at_last, fares, _⟩ := launched.fares rests partAt
  generalize part.cameTo start job = came at fares
  cases fares with
  | succeeded | failed => exact .inl ⟨_, at_last, rfl⟩
  | skipped cause undone =>
    rcases rests.halted_of_skipped orderly at_last undone (after_at partAt ▸ all) with
      ⟨rfl, cancelled⟩ | ⟨rfl, stops, failed⟩
    · exact .inr (.inl ⟨at_last, cancelled⟩)
    · exact .inr (.inr ⟨at_last, stops, failed⟩)

/-- The body of a job that succeeded returned. -/
theorem returned_of_succeeded (launched : p.Launched start)
    (rests : Machine.Rests (p.parts.map (·.after)) start last ends)
    (succeeded : last.books.stateOf job = some .succeeded) :
    ∃ part, p.parts[job]? = some part ∧ part.cameTo start job = some (.returned ()) := by
  obtain ⟨c, _, ended, _⟩ := rests.ended succeeded rfl
  obtain ⟨part, partAt⟩ := launched.part_of_ended ended
  obtain ⟨state, at_last, fares, _⟩ := launched.fares rests partAt
  rw [succeeded, Option.some.injEq] at at_last
  subst at_last
  refine ⟨part, partAt, ?_⟩
  generalize part.cameTo start job = came at fares
  cases fares
  rfl

/-- The end of a slice or a map is the job behind its elements. -/
theorem ending_at {name : String} {items : List UnitBody} {finish : UnitBody} {first : Nat}
    (mem : (.fanOut name items (some finish), first) ∈ p.placed) :
    p.parts[first + items.length]? = some ⟨name, s!"{name} (end)", false,
      finish (first + items.length), List.range' first items.length⟩ := by
  have length := WorkUnit.length_elements first name items
  have partAt := WorkUnit.parts_at (k := items.length) mem (by simp [WorkUnit.parts, length])
  rw [Nat.sub_zero] at partAt
  rw [parts, placed, partAt, WorkUnit.parts, List.getElem?_append_right (Nat.le_of_eq length),
    length, Nat.sub_self]
  rfl

theorem endsFanOut (launched : p.Launched start)
    (rests : Machine.Rests (p.parts.map (·.after)) start last ends)
    (orderly : Machine.Orderly (p.parts.map (·.after)) p.settings.continueOnError last)
    (tells : (Scheduler.report id last).Tells start last (failuresOf ends)) {name : String}
    {items : List UnitBody} {finish : UnitBody} {first : Nat}
    (mem : (.fanOut name items (some finish), first) ∈ p.placed) :
    p.EndsFanOut start last (Scheduler.report id last) first items.length := by
  have partAt := ending_at mem
  have states (j : Nat) : (Scheduler.report id last).states[j]? = last.books.stateOf j :=
    Books.getElem?_states ..
  have element {d : Nat} (dependency : d ∈ List.range' first items.length) :
      ∃ i < items.length, first + i = d := by
    obtain ⟨le, lt⟩ := List.mem_range'_1.mp dependency
    exact ⟨d - first, by omega, by omega⟩
  constructor
  case once =>
    obtain ⟨state, at_last, _⟩ := launched.fares rests partAt
    cases started : state.wasStarted with
    | true => exact .inl (tells.startsOnce ((states _).trans at_last) started)
    | false => exact .inr (tells.neverStarts ((states _).trans at_last) started)
  case behind =>
    intro before after split i within
    have recorded := orderly.behind before _ after split (first + i)
      (by rw [after_at partAt]; exact List.mem_range'_1.mpr ⟨by omega, by omega⟩)
    refine ⟨recorded, launched.returned_of_succeeded rests ?_⟩
    have told : .recorded (first + i) .succeeded ∈ last.timeline := by
      rw [show last.timeline = _ from split]
      exact List.mem_append_left _ recorded
    exact rests.told.recorded_iff.mp told
  case starts =>
    intro all
    have succeeded (d : Nat) (dependency : d ∈ List.range' first items.length) :
        last.books.stateOf d = some .succeeded := by
      obtain ⟨i, within, rfl⟩ := element dependency
      exact (states _).symm.trans (all i within)
    rcases launched.started_or_halted rests orderly partAt succeeded with
      ⟨state, at_last, started⟩ | ⟨skipped, cancelled⟩ | ⟨skipped, _, k, failed⟩
    · exact .inl (tells.startsOnce ((states _).trans at_last) started)
    · exact .inr (.inr ⟨(states _).trans skipped, cancelled⟩)
    · exact .inr (.inl ⟨(states _).trans skipped, k, (states k).trans failed⟩)

theorem concludes (launched : p.Launched start) (built : s.build = .ok p)
    (rests : Machine.Rests (p.parts.map (·.after)) start last ends)
    (orderly : Machine.Orderly (p.parts.map (·.after)) p.settings.continueOnError last)
    (tells : (Scheduler.report id last).Tells start last (failuresOf ends)) :
    p.Concludes start last (Scheduler.report id last) (failuresOf ends)
      (p.result (Scheduler.report id last).errors) where
  recorded := tells.order
  failed := tells.failed
  named := fun job e => (tells.own job e).trans (launched.error_iff rests)
  fine := by
    intro noErrors
    rw [tells.cancelled noErrors]
    split <;> rfl
  first := by
    intro stops e es is
    rw [tells.errors (by rw [is]; nofun), is]
    exact result_of_stopped stops e.2 _
  only := by
    intro _ e is
    rw [tells.errors (by rw [is]; nofun), is]
    rfl
  all := by
    intro goesOn many
    rw [tells.errors (by rintro is; rw [is] at many; cases many)]
    exact result_of_many goesOn (by rwa [List.length_map])
  halts := orderly.unfailed
  complete := by
    intro goesOn uncancelled job within
    have partAt := List.getElem?_eq_getElem within
    obtain ⟨q, unitPlaced, _, listed⟩ := WorkUnit.unit_of_part partAt
    have alone : p.parts[job].after = [] := by
      refine (WorkUnit.after_of_part listed).resolve_right ?_
      rintro ⟨name, items, finish, is, _⟩
      have unit : q.1 ∈ p.units := by
        rw [← WorkUnit.placed_units p.units 0]
        exact List.mem_map_of_mem unitPlaced
      rw [is] at unit
      cases ParallelSpec.unended_of_build built goesOn unit
    rcases launched.started_or_halted rests orderly partAt (by rw [alone]; nofun) with
      ⟨state, at_last, started⟩ | ⟨_, cancelled⟩ | ⟨_, stops, _⟩
    · exact tells.startsOnce ((Books.getElem?_states ..).trans at_last) started
    · rw [uncancelled] at cancelled
      cases cancelled
    · rw [goesOn] at stops
      cases stops
  ending := fun _ _ _ _ mem => launched.endsFanOut rests orderly tells mem

end Launched

/-! ## Runs -/

/-- Bodies that do not wait for a cancellation come to their ends. -/
theorem run_reported (p : Parallel) (token : Token) (sinks : Sinks)
    (unwaiting : ∀ part ∈ p.parts, part.body.Unwaiting) :
    ∃ r, p.run token sinks = .reported r := by
  obtain ⟨q, jobs, _, bodies, fresh, _⟩ := p.jobs_ok
  have all : ∀ body ∈ q.bodies, body.Unwaiting := by
    rw [bodies]
    intro body mem
    obtain ⟨part, listed, rfl⟩ := List.mem_map.mp mem
    refine Body.interpret_unwaiting ?_ (unwaiting part listed) _
    exact fun _ _ _ => trivial
  obtain ⟨report, reported⟩ := fresh.reported all
    (c := Lifecycle.conditions token p.emitter p.name id) rfl
    (Lifecycle.tellAll p.tell p.prelude sinks)
  rw [run_of_jobs jobs, reported]
  exact ⟨_, rfl⟩

/-- How every run of units that were built ends, whatever their bodies do and however it is
cancelled. Without failures it succeeds, or comes to a cancellation; one that stops at failures ends
with the first, and starts nothing after it; one that goes on ends with all of them, and starts
every body once. The errors are those of the bodies and name their jobs. The end of a slice or a map
starts behind its elements. Unless a body waits for a cancellation, every run ends. -/
theorem run_concludes (s : ParallelSpec) (p : Parallel) (built : s.build = .ok p) (token : Token)
    (sinks : Sinks) :
    (∀ r, p.run token sinks = .reported r → ∃ q last report failures,
      p.jobs = .ok (p.placed.map handles, q) ∧ (p.start q token sinks).run = .finished last ∧
        r.jobs = some report ∧ report = Scheduler.report q.id last ∧
        p.Concludes (p.start q token sinks) last report failures r.result) ∧
    ((∀ part ∈ p.parts, part.body.Unwaiting) → ∃ r, p.run token sinks = .reported r) := by
  refine ⟨fun r run => ?_, p.run_reported token sinks⟩
  obtain ⟨q, last, report, jobs, _, launched, finished, rfl, ran, result, _⟩ := run_cases run
  obtain ⟨ends, rests⟩ := launched.kept.rests launched.told finished
  have orderly := Machine.orderly_of_run launched.kept launched.told
    (.of_fresh launched.goesOn launched.untold launched.unhalted) finished
  refine ⟨q, last, _, failuresOf ends, jobs, finished, ran, rfl, ?_⟩
  rw [result]
  exact launched.concludes built rests orderly (Scheduler.report_tells rests)

/-- A task that fails in its sleep, and a slice of one element with an end. -/
def pairSpec : ParallelSpec where
  name := "pair"
  location := ⟨"pair", 1, 1⟩
  units :=
    [.task "slow" ⟨"pair", 2, 1⟩ (some fun _ => .sleep 5 fun _ => .done (.failed .cancelled)),
      .fanOut .slice "each" ⟨"pair", 3, 1⟩ [fun _ => .done (.returned ())]
        (some fun _ => .done (.returned ()))]

def pair : Parallel where
  name := "pair"
  units :=
    [.task "slow" fun _ => .sleep 5 fun _ => .done (.failed .cancelled),
      .fanOut "each" [fun _ => .done (.returned ())] (some fun _ => .done (.returned ()))]
  settings := {}
  emitter := .silent

theorem pair_unwaiting : ∀ part ∈ pair.parts, part.body.Unwaiting := by
  intro part mem
  simp only [parts, placed, pair, WorkUnit.placed, WorkUnit.parts, WorkUnit.elements,
    List.flatMap_cons, List.flatMap_nil, List.mapIdx_cons, List.mapIdx_nil, Option.toList_some,
    List.map_singleton, List.mem_append, List.mem_singleton, List.not_mem_nil, or_false] at mem
  rcases mem with rfl | rfl | rfl
  · exact fun _ => trivial
  · trivial
  · trivial

theorem run_concludes_pair : ∃ r q last report failures,
    pairSpec.build = .ok pair ∧ pair.run {} {} = .reported r ∧
      pair.jobs = .ok (pair.placed.map handles, q) ∧ (pair.start q {} {}).run = .finished last ∧
      r.jobs = some report ∧ report = Scheduler.report q.id last ∧
      pair.Concludes (pair.start q {} {}) last report failures r.result := by
  obtain ⟨r, run⟩ := (run_concludes pairSpec pair rfl {} {}).2 pair_unwaiting
  obtain ⟨q, last, report, failures, concludes⟩ :=
    (run_concludes pairSpec pair rfl {} {}).1 r run
  exact ⟨r, q, last, report, failures, rfl, run, concludes⟩

end Parallel

end KeyFlow
