import KeyFlow.Proofs.Run.Told

/-!
The report of a run tells what happened in it: which bodies began, how each of them ended, and why
the others never began.
-/

namespace KeyFlow

/-- The body does not wait for a cancellation. -/
def Body.Unwaiting {κ : Type} {ρ : κ → Type} {α : Type} : Body κ ρ α → Prop
  | .done _ => True
  | .call _ next => ∀ reply, (next reply).Unwaiting
  | .sleep _ next => ∀ t, (next t).Unwaiting
  | .awaitCancel _ => False
  | .isCancelled next => ∀ b, (next b).Unwaiting
  | .cancelRun next | .cancelOwn next => next.Unwaiting

/-- A body that does not wait does not wait where it is answered. -/
theorem Body.interpret_unwaiting {κ σ τ α β : Type} {ρ : κ → Type}
    {answer : τ → (request : κ) → σ → ρ request × τ × σ} {k : τ → α → Process σ β}
    (rest : ∀ own a, (k own a).Unwaiting) {body : Body κ ρ α} (unwaiting : body.Unwaiting)
    (own : τ) : Unwaiting (body.interpret answer k own) := by
  induction body generalizing own with
  | done a => exact rest own a
  | call r next ih => exact fun s => ih _ (unwaiting _) _
  | sleep millis next ih => exact fun t => ih t (unwaiting t) own
  | awaitCancel next ih => exact unwaiting.elim
  | isCancelled next ih => exact fun b => ih b (unwaiting b) own
  | cancelRun next ih | cancelOwn next ih => exact ih unwaiting own

def Slot.Unwaiting {σ : Type} : Slot σ → Prop
  | .fresh body | .queued body => body.Unwaiting
  | .asleep _ next => ∀ t, (next t).Unwaiting
  | .awaiting _ => False
  | .spent => True

def Moment.failed? : Moment → Option Nat
  | .recorded job .failed => some job
  | _ => none

namespace Report

variable {σ : Type}

/-- What the report says of a run from its start to its last moment, in which these jobs failed with
these errors. -/
structure Tells (r : Report σ) (start last : Machine σ) (failures : List (Nat × Error)) : Prop where
  all : r.states.length = start.slots.length
  terminal : ∀ state ∈ r.states, state.isTerminal = true
  started : ∀ j state, r.states[j]? = some state →
    r.timeline.count (.started j) = if state.wasStarted then 1 else 0
  begun : ∀ j state, r.states[j]? = some state → state.wasStarted = true →
    ∃! m, start.Begins m j
  unbegun : ∀ j state, r.states[j]? = some state → state.wasStarted = false →
    ∀ m, ¬ start.Begins m j
  /-- The state of a job that was started is that of its own end. -/
  ended : ∀ j state, r.states[j]? = some state → state.wasStarted = true →
    ∃ c, start.EndsWith j c ∧ state = c.outcome.state
  failed : ∀ j, r.states[j]? = some .failed ↔ j ∈ failures.map (·.1)
  once : (failures.map (·.1)).Nodup
  /-- Failures stand in the order in which they were recorded. -/
  order : failures.map (·.1) = r.timeline.filterMap Moment.failed?
  own : ∀ j e, (j, e) ∈ failures ↔ ∃ c : Conclusion, start.EndsWith j c ∧ c.error? = some e
  errors : failures ≠ [] → r.errors = failures.map (·.2)
  cancelled : failures = [] → r.errors = if last.cancelled then [.cancelled] else []
  result : r.result = match r.errors.head? with
    | some e => .error e
    | none => .ok ()
  clean : r.errors = [] → ∀ state ∈ r.states,
    state = .succeeded ∨ ∃ cause, state = .skipped cause ∧ cause.isClean = true

end Report

/-! ## Books without failures -/

theorem SkipCause.inherited_isClean {cause : SkipCause} (clean : cause.isClean = true) :
    cause.inherited.isClean = true := by
  cases cause <;> first | rfl | cases clean

/-- Without a halt or a failure nothing is skipped but for what declined. -/
theorem Books.Tied.clean {deps : List (List Nat)} {b : Books} (tied : Tied deps b)
    (unhalted : b.halted = none) (fine : ∀ j, b.stateOf j ≠ some .failed) {j : Nat}
    {cause : SkipCause} (skipped : b.stateOf j = some (.skipped cause)) : cause.isClean = true := by
  induction j using Nat.strong_induction_on generalizing cause with
  | _ j ih =>
    obtain ⟨e, found, state⟩ := entry_of_stateOf skipped
    rcases tied.skipped j e cause found state with rfl | halted | ⟨d, dependency, blocks⟩
    · rfl
    · rw [unhalted] at halted
      cases halted
    · obtain ⟨s, state', blocks⟩ := Option.bind_eq_some_iff.mp blocks
      cases s with
      | pending | running | succeeded => cases blocks
      | failed => exact absurd state' (fine d)
      | skipped cause' =>
        cases blocks
        exact SkipCause.inherited_isClean (ih d (tied.earlier j d dependency) state')

/-! ## Failures -/

theorem Conclusion.error?_isSome (c : Conclusion) :
    c.error?.isSome = true ↔ c.outcome = .failed := by
  cases c with
  | returned completion => cases completion <;> exact ⟨nofun, nofun⟩
  | failed | panicked => exact ⟨fun _ => rfl, fun _ => rfl⟩

/-- The errors among the ends of bodies. -/
def failuresOf (ends : List (Nat × Conclusion)) : List (Nat × Error) :=
  ends.filterMap fun e => e.2.error?.map (e.1, ·)

theorem mem_failuresOf {ends : List (Nat × Conclusion)} {j : Nat} {e : Error} :
    (j, e) ∈ failuresOf ends ↔ ∃ c : Conclusion, (j, c) ∈ ends ∧ c.error? = some e := by
  rw [failuresOf, List.mem_filterMap]
  constructor
  · rintro ⟨⟨j', c⟩, mem, found⟩
    obtain ⟨e', error, same⟩ := Option.map_eq_some_iff.mp found
    cases same
    exact ⟨c, mem, error⟩
  · rintro ⟨c, mem, error⟩
    exact ⟨(j, c), mem, by rw [error]; rfl⟩

theorem failuresOf_errors (ends : List (Nat × Conclusion)) :
    (failuresOf ends).map (·.2) = ends.filterMap (·.2.error?) := by
  rw [failuresOf, List.map_filterMap]
  refine List.filterMap_congr fun e _ => ?_
  cases e.2.error? <;> rfl

theorem failuresOf_jobs (ends : List (Nat × Conclusion)) :
    (failuresOf ends).map (·.1) = (ends.filter (·.2.error?.isSome)).map (·.1) := by
  induction ends with
  | nil => rfl
  | cons e ends ih =>
    rw [failuresOf, List.filterMap_cons, List.filter_cons]
    cases e.2.error? with
    | none => exact ih
    | some error => exact congrArg (e.1 :: ·) ih

/-- The failures in a timeline are those of the ends that it records. -/
theorem filterMap_failed? {timeline : List Moment} {ends : List (Nat × Conclusion)}
    (recorded : timeline.filterMap Moment.recorded? = ends.map fun e => (e.1, e.2.outcome)) :
    timeline.filterMap Moment.failed? = (failuresOf ends).map (·.1) := by
  have through (moment : Moment) : moment.failed? =
      moment.recorded?.bind fun e => if e.2 = .failed then some e.1 else none := by
    cases moment with
    | started => rfl
    | recorded job outcome => cases outcome <;> rfl
  rw [funext through, ← List.filterMap_filterMap, recorded, List.filterMap_map, failuresOf,
    List.map_filterMap]
  refine List.filterMap_congr fun e _ => ?_
  have failed := e.2.error?_isSome
  simp only [Function.comp_apply, ← failed]
  cases e.2.error? <;> rfl

namespace Machine

variable {σ : Type} {start m m' : Machine σ} {deps : List (List Nat)}

/-! ## Runs that finish -/

theorem advance_unwaiting {body : JobBody σ} (unwaiting : body.Unwaiting) (w : World σ) :
    (∀ millis next, (body.advance w).1 = .asleep millis next → ∀ t, (next t).Unwaiting) ∧
      ∀ next, (body.advance w).1 ≠ .awaiting next := by
  fun_induction JobBody.advance body w with
  | case1 =>
    refine ⟨?_, ?_⟩
    · rintro _ _ ⟨⟩
    · rintro _ ⟨⟩
  | case2 _ _ _ ih => exact ih (unwaiting _)
  | case3 _ _ ih => exact ih (unwaiting _)
  | case4 n next w =>
    refine ⟨?_, ?_⟩
    · rintro _ _ ⟨⟩
      exact unwaiting
    · rintro _ ⟨⟩
  | case5 | case6 => exact unwaiting.elim
  | case7 _ _ ih => exact ih (unwaiting _)
  | case8 _ _ ih | case9 _ _ ih => exact ih unwaiting

theorem moved_unwaiting {new old : Slot σ} (moved : Slot.Moved new old) (was : old.Unwaiting) :
    new.Unwaiting := by
  cases moved with
  | start => exact was
  | ended => trivial
  | slept p w millis wakeAt next paused => exact (advance_unwaiting was w).1 _ _ paused
  | waits p w next paused => exact absurd paused ((advance_unwaiting was w).2 next)
  | woke wakeAt clock next => exact was clock
  | resumed => exact was.elim

theorem Reaches.deadline (h : Reaches m m') : m'.deadline = m.deadline := by
  refine h.keeps (P := fun m' => m'.deadline = m.deadline) (fun m₁ m₂ same move => ?_) rfl
  rw [← same]
  cases move with
  | polled polls =>
    rw [ranOn, left]
    cases (JobBody.advance _ (m₁.world _)).1 <;> rfl
  | quiet quiet =>
    cases quiet with
    | woken job =>
      unfold wake
      split <;> rfl
    | sampled =>
      unfold sample
      split <;> rfl
    | _ => rfl

/-- Bodies that do not wait for a cancellation run on by themselves. -/
theorem Reaches.moving (h : Reaches m m') (deadline : m.deadline = none)
    (all : ∀ (i : Nat) slot, m.slots[i]? = some slot → slot.Unwaiting) : m'.Moving where
  deadline := h.deadline.trans deadline
  awake := fun i _ found => h.slots (fun _ _ => moved_unwaiting) all i _ found

/-! ## The last moment -/

/-- The last moment of a run that finished, in which these ends are recorded. -/
structure Rests (deps : List (List Nat)) (start last : Machine σ)
    (ends : List (Nat × Conclusion)) : Prop where
  kept : Kept deps last
  told : Told start last ends
  terminal : ∀ j state, last.books.stateOf j = some state → state.isTerminal = true
  length : last.slots.length = start.slots.length
  /-- A body that ran has left its place. -/
  ran : ∀ (m : Machine σ) job rest body, Comes start m → m.busy = false → m.Polls job rest body →
    ∀ fresh, last.slots[job]? ≠ some (.fresh fresh)

theorem Kept.rests (kept : Kept deps start) (told : Told start start []) {last : Machine σ}
    (run : start.run = .finished last) : ∃ ends, Rests deps start last ends := by
  obtain ⟨m, comes, stops⟩ := run_comes run
  obtain ⟨quietly, finished⟩ := (kept.reaches comes.reaches).step_finished stops
  have both : Kept deps last ∧ ∃ ends, Told start last ends := by
    refine quietly.keeps (P := fun m => Kept deps m ∧ ∃ ends, Told start m ends) ?_
      ⟨kept.reaches comes.reaches, comes.told kept told⟩
    rintro m m' ⟨kept, ends, told⟩ quiet
    exact ⟨kept.quiet quiet, told.quiet kept quiet⟩
  obtain ⟨kept', ends, told'⟩ := both
  refine ⟨ends, kept', told', fun j state found => ?_,
    (Reaches.trans comes.reaches quietly.reaches).length, ?_⟩
  · rw [Books.isFinished, kept'.sound.unfinished, beq_iff_eq, List.countP_eq_zero] at finished
    have mem : state ∈ last.books.states := List.mem_of_getElem? (by
      rw [Books.getElem?_states, found])
    simpa using finished state mem
  · intro m' job rest body comes' resting polls fresh found
    obtain ⟨next, step, _⟩ := step_of_polls resting polls
    have before : Comes m' m := .head step (comes'.before_stop step comes stops)
    obtain ⟨now, found', moved⟩ :=
      quietly.keeps (fun _ _ below quiet => SlotBelow.quiet below quiet)
        (before.slotBelow ⟨_, polls.slot, .refl⟩)
    rw [found, Option.some.injEq] at found'
    subst found'
    rcases Relation.ReflTransGen.cases_head moved with same | ⟨_, move, _⟩
    · cases same
    · cases move

namespace Rests

variable {last : Machine σ} {ends : List (Nat × Conclusion)} {j : Nat} {state : JobState}

/-- A job that was started has ended. -/
theorem ended (rests : Rests deps start last ends) (found : last.books.stateOf j = some state)
    (started : state.wasStarted = true) : ∃ c : Conclusion, (j, c) ∈ ends ∧
      start.EndsWith j c ∧ state = c.outcome.state := by
  obtain ⟨o, rfl⟩ := state.outcome_of_started (rests.terminal j state found) started
  obtain ⟨c, listed, rfl⟩ := (rests.told.ended j o).mp found
  exact ⟨c, listed, rests.told.history _ (List.mem_append_left _ listed), rfl⟩

theorem unbegun (rests : Rests deps start last ends) (found : last.books.stateOf j = some state)
    (unstarted : state.wasStarted = false) : ¬ start.Begins m j := by
  rintro ⟨comes, resting, rest, body, polls, _⟩
  have slot := (rests.told.fresh j state found).mpr (rests.ran m j rest body comes resting polls)
  rw [unstarted] at slot
  cases slot

/-- Every end was recorded. -/
theorem endsWith_iff (rests : Rests deps start last ends) {c : Conclusion} :
    start.EndsWith j c ↔ (j, c) ∈ ends := by
  refine ⟨fun ends => ?_, fun listed => rests.told.history _ (List.mem_append_left _ listed)⟩
  have ⟨m, rest, body, comes, resting, polls, _⟩ := ends
  have inRange : j < last.books.jobs.length := by
    rw [← rests.kept.length, rests.length, ← comes.reaches.length]
    exact (List.getElem?_eq_some_iff.mp polls.slot).1
  have found := Books.stateOf_eq (List.getElem?_eq_getElem inRange)
  obtain ⟨c', listed, ends', _⟩ := rests.ended found
    ((rests.told.fresh j _ found).mpr (rests.ran m j rest body comes resting polls))
  exact ends.unique ends' ▸ listed

theorem failed_iff (rests : Rests deps start last ends) :
    last.books.stateOf j = some .failed ↔ j ∈ (failuresOf ends).map (·.1) := by
  rw [show JobState.failed = Outcome.failed.state from rfl, rests.told.ended j .failed,
    failuresOf_jobs, List.mem_map]
  constructor
  · rintro ⟨c, mem, outcome⟩
    exact ⟨(j, c), List.mem_filter.mpr ⟨mem, c.error?_isSome.mpr outcome⟩, rfl⟩
  · rintro ⟨⟨_, c⟩, mem, rfl⟩
    obtain ⟨mem, error⟩ := List.mem_filter.mp mem
    exact ⟨c, mem, c.error?_isSome.mp error⟩

theorem errors (rests : Rests deps start last ends) : last.errors = (failuresOf ends).map (·.2) :=
  rests.told.errors.trans (failuresOf_errors ends).symm

/-- Without errors and without a cancellation every job came to a clean end. -/
theorem clean (rests : Rests deps start last ends) (noErrors : last.errors = [])
    (uncancelled : last.cancelled = false) (found : last.books.stateOf j = some state) :
    state = .succeeded ∨ ∃ cause, state = .skipped cause ∧ cause.isClean = true := by
  have unfailed (j : Nat) : last.books.stateOf j ≠ some .failed := by
    rw [Ne, rests.failed_iff, List.map_eq_nil_iff.mp (rests.errors.symm.trans noErrors)]
    exact List.not_mem_nil
  have unhalted : last.books.halted = none := by
    by_contra closed
    obtain ⟨cause, halted⟩ := Option.ne_none_iff_exists'.mp closed
    rcases rests.told.halted cause halted with ⟨_, cancelled⟩ | ⟨_, j, failed⟩
    · rw [uncancelled] at cancelled
      cases cancelled
    · exact unfailed j failed
  cases state with
  | pending | running => exact absurd (rests.terminal j _ found) nofun
  | failed => exact absurd found (unfailed j)
  | succeeded => exact .inl rfl
  | skipped cause => exact .inr ⟨cause, rfl, rests.kept.sound.tied.clean unhalted unfailed found⟩

end Rests

end Machine

theorem Course.map_reported {ρ τ σ υ : Type} {f : ρ → τ} {g : σ → υ} {c : Course ρ σ} {t : τ}
    (h : c.map f g = .reported t) : ∃ r, c = .reported r ∧ t = f r := by
  cases c with
  | reported r =>
    cases h
    exact ⟨r, rfl, rfl⟩
  | timedOut | stalled | fault => cases h

namespace Scheduler

variable {σ : Type} {s : Scheduler σ} {deps : List (List Nat)}

/-- A run that is reported has finished. -/
theorem finished_of_reported {c : Conditions σ} {shared : σ} {r : Report σ}
    (reported : s.run c shared = .reported r) :
    ∃ last, (s.start c shared).run = .finished last ∧ r = report s.id last := by
  rw [run] at reported
  split at reported
  case h_1 last finished =>
    cases reported
    exact ⟨last, finished, rfl⟩
  all_goals cases reported

theorem report_errors {m : Machine σ} (seen : m.seen = true → m.cancelled = true) :
    (report s.id m).errors =
      if m.errors.isEmpty && m.cancelled then [.cancelled] else m.errors := by
  have saw : (m.seen || m.cancelled) = m.cancelled := by
    cases h : m.seen with
    | false => rfl
    | true => rw [seen h, Bool.or_true]
  rw [report, saw]

theorem report_stateOf (id job : Nat) (m : Machine σ) :
    (report id m).stateOf ⟨id, job⟩ = m.books.stateOf job :=
  (if_pos rfl).trans (Books.getElem?_states ..)

theorem report_tells {c : Conditions σ} {shared : σ} {last : Machine σ}
    {ends : List (Nat × Conclusion)} (rests : Machine.Rests deps (s.start c shared) last ends) :
    (report s.id last).Tells (s.start c shared) last (failuresOf ends) := by
  have states (j : Nat) : (report s.id last).states[j]? = last.books.stateOf j :=
    Books.getElem?_states ..
  have stateAt {state : JobState} (mem : state ∈ (report s.id last).states) :
      ∃ j, last.books.stateOf j = some state := by
    obtain ⟨j, found⟩ := List.mem_iff_getElem?.mp mem
    exact ⟨j, states j ▸ found⟩
  have result := report_errors (s := s) rests.told.seen
  constructor
  case all =>
    rw [← rests.length, rests.kept.length]
    exact List.length_map ..
  case terminal =>
    intro state mem
    obtain ⟨j, found⟩ := stateAt mem
    exact rests.terminal j state found
  case started => exact fun j state found => rests.told.started j state (states j ▸ found)
  case begun =>
    intro j state found started
    obtain ⟨_, _, ⟨m, rest, body, comes, resting, polls, _⟩, _⟩ :=
      rests.ended (states j ▸ found) started
    obtain ⟨m₁, begins⟩ := s.begins_of_polls comes resting polls
    exact ⟨m₁, begins, fun _ other => other.unique begins⟩
  case unbegun => exact fun j state found unstarted m => rests.unbegun (states j ▸ found) unstarted
  case ended =>
    intro j state found started
    obtain ⟨c', _, ends⟩ := rests.ended (states j ▸ found) started
    exact ⟨c', ends⟩
  case failed => exact fun j => states j ▸ rests.failed_iff
  case once =>
    rw [failuresOf_jobs]
    exact rests.told.once.sublist (List.filter_sublist.map _)
  case order => exact (filterMap_failed? rests.told.recorded).symm
  case own =>
    intro j e
    rw [mem_failuresOf]
    exact exists_congr fun c' => and_congr_left fun _ => rests.endsWith_iff.symm
  case errors =>
    intro someFailed
    have full : last.errors.isEmpty = false := by
      rw [rests.errors, List.isEmpty_map]
      simpa using someFailed
    rw [result, full]
    exact rests.errors
  case cancelled =>
    intro noErrors
    rw [result, rests.errors, noErrors]
    rfl
  case result =>
    rw [Report.result]
    cases (report s.id last).errors <;> rfl
  case clean =>
    intro noErrors state mem
    obtain ⟨j, found⟩ := stateAt mem
    rw [result] at noErrors
    split at noErrors
    · cases noErrors
    · rename_i uncancelled
      rw [noErrors, List.isEmpty_nil, Bool.true_and, Bool.not_eq_true] at uncancelled
      exact rests.clean noErrors uncancelled found

/-- Bodies that do not wait for a cancellation come to their ends. -/
theorem Unstarted.reported {s : Scheduler σ} (fresh : Unstarted deps s)
    (unwaiting : ∀ body ∈ s.bodies, body.Unwaiting) {c : Conditions σ} (patient : c.deadline = none)
    (shared : σ) : ∃ r, s.run c shared = .reported r := by
  have slots (i : Nat) (slot : Slot σ) (found : (s.start c shared).slots[i]? = some slot) :
      slot.Unwaiting := by
    obtain ⟨body, mem, rfl⟩ := List.mem_map.mp (List.mem_of_getElem? found)
    exact unwaiting body mem
  obtain ⟨last, finished, _⟩ :=
    (fresh.kept c shared).run_finished fun _ reached => reached.moving patient slots
  exact ⟨report s.id last, by rw [run, finished]⟩

/-- A run that is reported tells exactly what happened: which bodies began, how each of them ended,
and with which errors the jobs failed, in the order of the records. Unless the caller loses
patience, or a body waits for a cancellation, every run is reported. -/
theorem run_reports (s : Scheduler σ) (filled : s.Filled) (c : Conditions σ) (shared : σ) :
    (∀ r, s.run c shared = .reported r → ∃ last failures,
      (s.start c shared).run = .finished last ∧ r = report s.id last ∧
        r.Tells (s.start c shared) last failures) ∧
    (c.deadline = none → (∀ body ∈ s.bodies, body.Unwaiting) →
      ∃ r, s.run c shared = .reported r) := by
  obtain ⟨deps, fresh⟩ := filled.unstarted
  constructor
  · intro r reported
    rw [run] at reported
    split at reported
    case h_1 last finished =>
      cases reported
      obtain ⟨ends, rests⟩ := (fresh.kept c shared).rests (fresh.told c shared) finished
      exact ⟨last, failuresOf ends, finished, rfl, report_tells rests⟩
    all_goals cases reported
  · intro deadline unwaiting
    have slots : ∀ (i : Nat) slot, (s.start c shared).slots[i]? = some slot → slot.Unwaiting := by
      intro i slot found
      obtain ⟨body, mem, rfl⟩ := List.mem_map.mp (List.mem_of_getElem? found)
      exact unwaiting body mem
    obtain ⟨last, finished, _⟩ :=
      (fresh.kept c shared).run_finished fun _ reached => reached.moving deadline slots
    exact ⟨report s.id last, by rw [run, finished]⟩

/-- One job fails in its sleep, one declines at once, and one waits for both. -/
theorem run_reports_three :
    ∃ (s : Scheduler Unit) (r : Report Unit) (last : Machine Unit) (failures : List (Nat × Error)),
      s.size = 3 ∧ s.run {} () = .reported r ∧ r = report s.id last ∧
        r.Tells (s.start {} ()) last failures := by
  let fails : JobBody Unit := .sleep 5 fun _ => .done (.failed .cancelled)
  let declines : JobBody Unit := .done (.returned .skip)
  let waits : JobBody Unit := .done (.returned .done)
  let one := ((create 0 { continueOnError := true }).enqueue { body := fails }).2
  let two := (one.enqueue { body := declines }).2
  let three := (two.enqueue { body := waits, dependencies := [⟨0, 0⟩, ⟨0, 1⟩] }).2
  have filled : three.Filled := by
    refine .enqueue (.enqueue (.enqueue (.create 0 _) _ ?_) _ ?_) _ ?_
    · nofun
    · nofun
    · intro h mem _
      have bound : h.index < 2 := by
        rcases List.mem_cons.mp mem with rfl | mem
        · decide
        · rw [List.mem_singleton.mp mem]
          decide
      exact bound
  have bodies : three.bodies = [fails, declines, waits] := rfl
  have unwaiting : ∀ body ∈ three.bodies, body.Unwaiting := by
    rw [bodies]
    intro body mem
    simp only [List.mem_cons, List.not_mem_nil, or_false] at mem
    rcases mem with rfl | rfl | rfl
    · exact fun _ => trivial
    · trivial
    · trivial
  obtain ⟨r, reported⟩ := (run_reports three filled {} ()).2 rfl unwaiting
  obtain ⟨last, failures, _, same, tells⟩ := (run_reports three filled {} ()).1 r reported
  exact ⟨three, r, last, failures, rfl, reported, same, tells⟩

end Scheduler

end KeyFlow
