import KeyFlow.Proofs.Jobs.Stopped
import KeyFlow.Proofs.Run.Shut

/-!
A run that does not go on after a failure. When its first failure is recorded nothing starts any
more: the jobs that run come to their own ends, the others are skipped, each for a cause that the
books and the dependencies tell, and the failure is the result of the run.
-/

namespace KeyFlow

/-- The body does not cancel the run. -/
def Body.Uncancelling {κ : Type} {ρ : κ → Type} {α : Type} : Body κ ρ α → Prop
  | .done _ => True
  | .call _ next => ∀ reply, (next reply).Uncancelling
  | .sleep _ next | .awaitCancel next => ∀ t, (next t).Uncancelling
  | .isCancelled next => ∀ b, (next b).Uncancelling
  | .cancelRun _ => False
  | .cancelOwn next => next.Uncancelling

def Slot.Uncancelling {σ : Type} : Slot σ → Prop
  | .fresh body | .queued body => body.Uncancelling
  | .asleep _ next | .awaiting next => ∀ t, (next t).Uncancelling
  | .spent => True

namespace Machine

variable {σ : Type} {start m m' next : Machine σ} {deps : List (List Nat)}
  {ends : List (Nat × Conclusion)}

/-! ## Runs that nobody cancels -/

theorem advance_uncancelling {body : JobBody σ} (calm : body.Uncancelling) (w : World σ) :
    (body.advance w).2.cancelled = w.cancelled ∧
      (∀ millis next, (body.advance w).1 = .asleep millis next → ∀ t, (next t).Uncancelling) ∧
      ∀ next, (body.advance w).1 = .awaiting next → ∀ t, (next t).Uncancelling := by
  fun_induction JobBody.advance body w with
  | case1 =>
    refine ⟨rfl, ?_, ?_⟩
    · rintro _ _ ⟨⟩
    · rintro _ ⟨⟩
  | case2 _ _ _ ih | case3 _ _ ih | case5 _ _ _ ih | case7 _ _ ih => exact ih (calm _)
  | case4 n next w =>
    refine ⟨rfl, ?_, ?_⟩
    · rintro _ _ ⟨⟩
      exact calm
    · rintro _ ⟨⟩
  | case6 next w =>
    refine ⟨rfl, ?_, ?_⟩
    · rintro _ _ ⟨⟩
    · rintro _ ⟨⟩
      exact calm
  | case8 => exact calm.elim
  | case9 _ _ ih => exact ih calm

theorem moved_uncancelling {new old : Slot σ} (moved : Slot.Moved new old)
    (was : old.Uncancelling) : new.Uncancelling := by
  cases moved with
  | start => exact was
  | ended => trivial
  | slept p w millis wakeAt next paused => exact (advance_uncancelling was w).2.1 _ _ paused
  | waits p w next paused => exact (advance_uncancelling was w).2.2 _ paused
  | woke wakeAt clock next => exact was clock
  | resumed clock next => exact was clock

/-- Without a plan to cancel it, a run of such bodies is never cancelled. -/
theorem Comes.uncancelled (comes : Comes start m) (calm : start.cancelled = false)
    (unplanned : start.cancelAt = none)
    (all : ∀ (i : Nat) slot, start.slots[i]? = some slot → slot.Uncancelling) :
    m.cancelled = false := by
  have both : m.cancelled = false ∧ m.cancelAt = none := by
    refine comes.keeps (P := fun m => m.cancelled = false ∧ m.cancelAt = none) ?_ ?_
      ⟨calm, unplanned⟩
    · rintro m m' ⟨calm, unplanned⟩ quiet
      cases quiet with
      | arrived planned =>
        rw [unplanned] at planned
        cases planned
      | woken job =>
        unfold wake
        split <;> exact ⟨calm, unplanned⟩
      | sampled =>
        unfold sample
        split <;> exact ⟨calm, unplanned⟩
      | _ => exact ⟨calm, unplanned⟩
    · rintro m job rest body comes _ polls ⟨calm, unplanned⟩
      have slot : body.Uncancelling :=
        comes.reaches.slots (fun _ _ => moved_uncancelling) all job _ polls.slot
      constructor
      · rw [ranOn_cancelled, (advance_uncancelling slot _).1]
        exact calm
      · rw [ranOn, left]
        cases (body.advance (m.world job)).1 <;> exact unplanned
  exact both.1

/-! ## Before the first failure -/

theorem Told.unfailed (told : Told start m ends) (first : ∀ j, .recorded j .failed ∉ m.timeline)
    (j : Nat) : m.books.stateOf j ≠ some .failed :=
  fun failed => first j (told.recorded_iff.mpr failed)

/-- A run that was not cancelled has open books until a job fails. -/
theorem Told.unhalted (told : Told start m ends) (first : ∀ j, .recorded j .failed ∉ m.timeline)
    (uncancelled : m.cancelled = false) : m.books.halted = none := by
  by_contra closed
  obtain ⟨cause, halted⟩ := Option.ne_none_iff_exists'.mp closed
  rcases told.halted cause halted with ⟨_, cancelled⟩ | ⟨_, j, failed⟩
  · rw [uncancelled] at cancelled
    cases cancelled
  · exact told.unfailed first j failed

theorem Told.no_errors (told : Told start m ends) (first : ∀ j, .recorded j .failed ∉ m.timeline) :
    m.errors = [] := by
  rw [told.errors, List.filterMap_eq_nil_iff]
  rintro ⟨j, c⟩ listed
  by_contra fails
  have failed := c.error?_isSome.mp (Option.isSome_iff_ne_none.mpr fails)
  exact told.unfailed first j ((told.ended j .failed).mpr ⟨c, listed, failed⟩)

/-! ## The first failure -/

/-- What the scheduler leaves when it has recorded an end. -/
theorem Notes.next_eq {f : Nat} {c : Conclusion} (notes : Notes start m f c next) :
    ∃ rest books, m.conclusions = (f, c) :: rest ∧ m.books.complete f c.outcome = .ok books ∧
      next = { m with
        conclusions := rest
        busy := true
        books
        errors := m.errors ++ c.error?.toList
        timeline := m.timeline ++ [.recorded f c.outcome] } := by
  obtain ⟨rest, first⟩ := notes.first
  rcases serve_timeline notes.served with same | ⟨_, job, c', rest', books, first', complete, eq⟩
  · exfalso
    have served := notes.served
    rw [serve, notes.unfinished, first] at served
    simp only [Bool.false_eq_true, if_false] at served
    split at served
    · cases served
    · rename_i recorded
      cases served
      unfold record at recorded
      split at recorded <;> cases recorded
      have length := congrArg List.length same
      simp at length
  · rw [first, List.cons.injEq, Prod.mk.injEq] at first'
    obtain ⟨⟨rfl, rfl⟩, rfl⟩ := first'
    exact ⟨rest, books, first, complete, eq⟩

theorem Notes.comes {f : Nat} {c : Conclusion} (notes : Notes start m f c next) :
    Comes start next := notes.serves.comes notes.served

theorem Notes.running {f : Nat} {c : Conclusion} (notes : Notes start m f c next)
    (kept : Kept deps m) : m.books.stateOf f = some .running := by
  obtain ⟨rest, first⟩ := notes.first
  exact kept.running_head first

theorem Notes.keeps {f : Nat} {c : Conclusion} (notes : Notes start m f c next)
    (kept : Kept deps m) : Keeps m next := by
  obtain ⟨rest, books, conclusions, complete, eq⟩ := notes.next_eq
  rw [eq]
  exact kept.keeps_recorded conclusions complete

/-- The first failure of a run: job `f` failed with the error `e`, the scheduler was about to record
that in `m`, and went on to `next`. -/
structure FirstFailure (deps : List (List Nat)) (start : Machine σ) (f : Nat) (e : Error)
    (m next : Machine σ) : Prop where
  recorded : ∃ c, Notes start m f c next ∧ c.error? = some e
  told : next.timeline = m.timeline ++ [.recorded f .failed]
  first : ∀ j, .recorded j .failed ∉ m.timeline
  /-- Nothing is started afterwards. -/
  shut : ∀ now, Reaches next now →
    ∃ later, now.timeline = next.timeline ++ later ∧ ∀ j, .started j ∉ later
  /-- What had not started is skipped at once, and for good. -/
  skipped : ∀ now, Reaches next now → ∀ j, m.books.stateOf j = some .pending →
    now.books.stateOf j = some (.skipped (m.books.stopCause deps f j))
  ended : ∀ now, Reaches next now → ∀ j state, m.books.stateOf j = some state →
    state.isTerminal = true → now.books.stateOf j = some state
  error : ∀ now, Reaches next now → now.errors.head? = some e

theorem Notes.first_failure {f : Nat} {c : Conclusion} (notes : Notes start m f c next)
    (kept : Kept deps start) (told : Told start start []) (failed : c.outcome = .failed)
    (first : ∀ j, .recorded j .failed ∉ m.timeline)
    (uncancelled : ∀ now, Comes start now → now.cancelled = false)
    (stops : start.books.continueOnError = false) :
    ∃ e, FirstFailure deps start f e m next := by
  obtain ⟨rest, books, conclusions, complete, eq⟩ := notes.next_eq
  obtain ⟨keptM, ends, toldM⟩ := notes.serves.told kept told
  have calm : m.cancelled = false := by
    rw [← uncancelled next notes.comes, eq]
  have unhalted := toldM.unhalted first calm
  have unfailed := toldM.unfailed first
  have mode : m.books.continueOnError = false :=
    (kept.keeps notes.serves.reaches).frame.continueOnError.trans stops
  rw [failed] at complete
  obtain ⟨halted, skipped⟩ := Books.complete_stops keptM.sound unhalted
    (fun d cause => keptM.sound.tied.clean unhalted unfailed) unfailed mode (notes.running keptM)
    complete
  have keptN := kept.reaches notes.comes.reaches
  have closed : next.books.halted.isSome = true := by rw [eq, halted]; rfl
  have skipped' (j : Nat) (pending : m.books.stateOf j = some .pending) :
      next.books.stateOf j = some (.skipped (m.books.stopCause deps f j)) := by
    rw [eq]
    exact skipped j pending
  obtain ⟨e, error⟩ := Option.isSome_iff_exists.mp (c.error?_isSome.mpr failed)
  have errors : next.errors = [e] := by
    rw [eq]
    show m.errors ++ c.error?.toList = [e]
    rw [toldM.no_errors first, error]
    rfl
  have keeps := notes.keeps keptM
  refine ⟨e, ⟨c, notes, error⟩, by rw [eq, failed], first, fun now later => ?_,
    fun now later j pending => ?_, fun now later j state found terminal => ?_, fun now later => ?_⟩
  · obtain ⟨more, told, quiet⟩ := (keptN.keeps later).timeline
    exact ⟨more, told, quiet closed⟩
  · exact (keptN.keeps later).ended j _ (skipped' j pending) rfl
  · exact (keptN.keeps later).ended j _ (keeps.ended j state found terminal) terminal
  · obtain ⟨more, same⟩ := (keptN.keeps later).errors
    rw [← same, errors]
    rfl

/-- Among the moments in which failures are recorded one is the first. -/
theorem first_failed {timeline : List Moment} {j : Nat} (mem : .recorded j .failed ∈ timeline) :
    ∃ before f after, timeline = before ++ .recorded f .failed :: after ∧
      ∀ k, .recorded k .failed ∉ before := by
  induction timeline with
  | nil => cases mem
  | cons moment timeline ih =>
    by_cases here : ∃ f, moment = .recorded f .failed
    · obtain ⟨f, rfl⟩ := here
      exact ⟨[], f, timeline, rfl, fun _ => List.not_mem_nil⟩
    · have later := (List.mem_cons.mp mem).resolve_left fun same => here ⟨j, same.symm⟩
      obtain ⟨before, f, after, split, noneBefore⟩ := ih later
      refine ⟨moment :: before, f, after, by rw [split]; rfl, fun k mem => ?_⟩
      rcases List.mem_cons.mp mem with same | mem
      · exact here ⟨k, same.symm⟩
      · exact noneBefore k mem

end Machine

namespace Report

variable {σ : Type}

/-- What the report says of a run that stopped when job `f` failed with the error `e`; the scheduler
was about to record that in `m`. -/
structure StopsAt (r : Report σ) (deps : List (List Nat)) (start : Machine σ) (f : Nat) (e : Error)
    (m : Machine σ) : Prop where
  /-- No job is started after the failure, and none failed before it. -/
  timeline : ∃ later, r.timeline = m.timeline ++ .recorded f .failed :: later ∧
    ∀ j, .started j ∉ later
  running : ∀ j, m.books.stateOf j = some .running →
    ∃ c, start.EndsWith j c ∧ r.states[j]? = some c.outcome.state
  pending : ∀ j, m.books.stateOf j = some .pending →
    r.states[j]? = some (.skipped (m.books.stopCause deps f j))
  ended : ∀ j state, m.books.stateOf j = some state → state.isTerminal = true →
    r.states[j]? = some state
  /-- Jobs that ran when `f` failed may have failed later. -/
  errors : ∃ later : List (Nat × Error), r.errors = e :: later.map (·.2) ∧
    f :: later.map (·.1) = r.timeline.filterMap Moment.failed? ∧
    ∀ failure ∈ later, m.books.stateOf failure.1 = some .running ∧
      ∃ c : Conclusion, start.EndsWith failure.1 c ∧ c.error? = some failure.2
  result : r.result = .error e

end Report

namespace Machine

variable {σ : Type} {start m next last : Machine σ} {deps : List (List Nat)}
  {ends : List (Nat × Conclusion)}

theorem filterMap_failed?_eq_nil {before : List Moment}
    (first : ∀ j, .recorded j .failed ∉ before) : before.filterMap Moment.failed? = [] := by
  rw [List.filterMap_eq_nil_iff]
  intro moment mem
  cases moment with
  | started => rfl
  | recorded job outcome =>
    cases outcome with
    | failed => exact absurd mem (first job)
    | _ => rfl

/-- A job that had been started in `m` comes to its own end. -/
theorem Rests.own_end {ends' : List (Nat × Conclusion)} (rests : Rests deps start last ends)
    (keeps : Keeps m last) (told : Told start m ends') {j : Nat} {state : JobState}
    (found : m.books.stateOf j = some state) (started : state.wasStarted = true) :
    ∃ c : Conclusion, start.EndsWith j c ∧ last.books.stateOf j = some c.outcome.state := by
  have inRange : j < last.books.jobs.length := keeps.frame.length ▸ Books.lt_of_stateOf found
  have found' := Books.stateOf_eq (List.getElem?_eq_getElem inRange)
  have before := told.started j state found
  have after := rests.told.started j _ found'
  obtain ⟨later, timeline, _⟩ := keeps.timeline
  rw [timeline, List.count_append, before, if_pos started] at after
  have started' : (last.books.jobs[j]).state.wasStarted = true := by
    by_contra unstarted
    rw [if_neg unstarted] at after
    omega
  obtain ⟨c, _, ownEnd, same⟩ := rests.ended found' started'
  exact ⟨c, ownEnd, found'.trans (congrArg some same)⟩

/-- The failures of a run begin with the first that was recorded. -/
theorem FirstFailure.failures {f : Nat} {e : Error} (failure : FirstFailure deps start f e m next)
    (kept : Kept deps start) (told : Told start start []) (rests : Rests deps start last ends)
    (later : Reaches next last) : ∃ rest, failuresOf ends = (f, e) :: rest := by
  obtain ⟨c, notes, error⟩ := failure.recorded
  obtain ⟨keptM, ends', toldM⟩ := notes.serves.told kept told
  obtain ⟨more, timeline, _⟩ := failure.shut last later
  have order := filterMap_failed? rests.told.recorded
  rw [timeline, failure.told, List.append_assoc, List.filterMap_append,
    filterMap_failed?_eq_nil failure.first] at order
  cases listed : failuresOf ends with
  | nil =>
    rw [listed] at order
    cases order
  | cons first rest =>
    rw [listed] at order
    obtain ⟨f', e'⟩ := first
    obtain rfl : f = f' := (List.cons.inj order).1
    -- The body of `f` came to one end, with one error.
    obtain ⟨c', listed', error'⟩ := mem_failuresOf.mp (listed ▸ List.mem_cons_self ..)
    have ends : start.EndsWith f c' := rests.endsWith_iff.mpr listed'
    obtain ⟨rest', conclusions⟩ := notes.first
    have ends' : start.EndsWith f c := toldM.history (f, c)
      (List.mem_append_right _ (conclusions ▸ List.mem_cons_self ..))
    rw [ends.unique ends', error] at error'
    cases error'
    exact ⟨rest, rfl⟩

end Machine

namespace Scheduler

variable {σ : Type} {s : Scheduler σ} {deps : List (List Nat)}

open Machine in
theorem report_stopsAt {c : Conditions σ} {shared : σ} {f : Nat} {e : Error}
    {m next last : Machine σ} {ends : List (Nat × Conclusion)} (fresh : Unstarted deps s)
    (failure : FirstFailure deps (s.start c shared) f e m next)
    (rests : Rests deps (s.start c shared) last ends) (later : Reaches next last) :
    (report s.id last).StopsAt deps (s.start c shared) f e m := by
  have kept := fresh.kept c shared
  have told := fresh.told c shared
  obtain ⟨_, notes, _⟩ := failure.recorded
  obtain ⟨keptM, ends', toldM⟩ := notes.serves.told kept told
  have states (j : Nat) : (report s.id last).states[j]? = last.books.stateOf j :=
    Books.getElem?_states ..
  have keeps : Keeps m last :=
    .trans (notes.keeps keptM) ((kept.reaches notes.comes.reaches).keeps later)
  obtain ⟨rest, listed⟩ := failure.failures kept told rests later
  have tells := report_tells (s := s) rests
  have errors : (report s.id last).errors = e :: rest.map (·.2) := by
    rw [tells.errors (by rw [listed]; nofun), listed]
    rfl
  constructor
  case timeline =>
    obtain ⟨more, timeline, quiet⟩ := failure.shut last later
    refine ⟨more, ?_, quiet⟩
    show last.timeline = _
    rw [timeline, failure.told, List.append_assoc]
    rfl
  case running =>
    intro j running
    rw [states]
    exact rests.own_end keeps toldM running rfl
  case pending => exact fun j pending => (states j).trans (failure.skipped last later j pending)
  case ended =>
    exact fun j state found terminal => (states j).trans
      (failure.ended last later j state found terminal)
  case errors =>
    refine ⟨rest, errors, ?_, fun other mem => ?_⟩
    · rw [← tells.order, listed]
      rfl
    · obtain ⟨j, e'⟩ := other
      have mem' : (j, e') ∈ failuresOf ends := listed ▸ List.mem_cons_of_mem _ mem
      refine ⟨?_, (tells.own j e').mp mem'⟩
      have failed := rests.failed_iff.mpr (List.mem_map_of_mem (f := (·.1)) mem')
      have inRange : j < m.books.jobs.length := keeps.frame.length ▸ Books.lt_of_stateOf failed
      have found := Books.stateOf_eq (List.getElem?_eq_getElem inRange)
      -- What was skipped or at an end when `f` failed has stayed so, and no other job had failed.
      cases state : (m.books.jobs[j]).state with
      | running => exact found.trans (congrArg some state)
      | pending =>
        have skipped := failure.skipped last later j (found.trans (congrArg some state))
        rw [failed] at skipped
        cases skipped
      | succeeded | failed | skipped =>
        have same := failure.ended last later j _ found (by rw [state]; rfl)
        rw [failed] at same
        exact absurd (found.trans same.symm) (toldM.unfailed failure.first j)
  case result =>
    rw [Report.result, errors]

/-- A run that does not go on after failures, and that nobody cancels, stops when its first failure
is recorded: nothing is started any more, what had not started is skipped, what runs comes to its
own end, and the result of the run is the error of the first failure, whatever fails later. -/
theorem first_failure_stops (s : Scheduler σ) (collected : s.Collected deps)
    (stops : s.settings.continueOnError = false) (c : Conditions σ) (shared : σ)
    (uncancelled : ∀ m, Machine.Comes (s.start c shared) m → m.cancelled = false) :
    (∀ now, Machine.Comes (s.start c shared) now → ∀ j, .recorded j .failed ∈ now.timeline →
      ∃ f e m next, Machine.FirstFailure deps (s.start c shared) f e m next ∧
        Machine.Comes next now) ∧
    ∀ r, s.run c shared = .reported r → .failed ∈ r.states →
      ∃ f e m next, Machine.FirstFailure deps (s.start c shared) f e m next ∧
        r.StopsAt deps (s.start c shared) f e m := by
  have fresh := collected.unstarted
  have kept := fresh.kept c shared
  have told := fresh.told c shared
  have mode : (s.start c shared).books.continueOnError = false :=
    collected.settings.1.trans stops
  constructor
  · intro now comes j mem
    obtain ⟨before, f, after, split, noneBefore⟩ := Machine.first_failed mem
    obtain ⟨m, c', next, notes, rfl, failed, later⟩ := comes.recorded_at rfl split
    obtain ⟨e, failure⟩ := notes.first_failure kept told failed noneBefore uncancelled mode
    exact ⟨f, e, m, next, failure, later⟩
  · intro r reported failed
    obtain ⟨last, finished, rfl⟩ := finished_of_reported reported
    obtain ⟨ends, rests⟩ := kept.rests told finished
    obtain ⟨serves, _⟩ := kept.finished_serves finished
    obtain ⟨j, found⟩ := List.mem_iff_getElem?.mp failed
    have state : last.books.stateOf j = some .failed := (Books.getElem?_states ..).symm.trans found
    obtain ⟨before, f, after, split, noneBefore⟩ :=
      Machine.first_failed (rests.told.recorded_iff.mpr state)
    obtain ⟨m, c', next, notes, rfl, outcome, later⟩ := serves.recorded_at rfl split
    obtain ⟨e, failure⟩ := notes.first_failure kept told outcome noneBefore uncancelled mode
    exact ⟨f, e, m, next, failure, report_stopsAt fresh failure rests later⟩

/-- One job fails at once, and one waits for it. -/
theorem first_failure_stops_two : ∃ (s : Scheduler Unit) (r : Report Unit) (f : Nat) (e : Error)
    (m next : Machine Unit), s.size = 2 ∧ s.run {} () = .reported r ∧
      Machine.FirstFailure [[], [0]] (s.start {} ()) f e m next ∧
      r.StopsAt [[], [0]] (s.start {} ()) f e m := by
  let fails : JobBody Unit := .done (.failed .cancelled)
  let job : Job Unit := { body := fails }
  let behind : Job Unit := { body := fails, dependencies := [⟨0, 0⟩] }
  let one := ((create 0 {}).enqueue job).2
  let two := (one.enqueue behind).2
  have first : (create 0 {}).enqueue job = (.ok ⟨0, 0⟩, one) := rfl
  have second : one.enqueue behind = (.ok ⟨0, 1⟩, two) := rfl
  have collected : two.Collected [[], [0]] := by
    refine .taken (.taken (.create 0 {}) (by simp [job]) first) (fun h mem _ => ?_) second
    rw [List.mem_singleton.mp mem]
    decide
  have calm : ∀ (i : Nat) slot, (two.start {} ()).slots[i]? = some slot → slot.Uncancelling := by
    intro i slot found
    have same : slot = .fresh fails := by
      simpa using (show slot ∈ [.fresh fails, .fresh fails] from List.mem_of_getElem? found)
    rw [same]
    trivial
  obtain ⟨last, run, states⟩ : ∃ last, (two.start {} ()).run = .finished last ∧
      last.books.states = [.failed, .skipped .dependencyFailed] :=
    Machine.run_finished_of_within (n := 9) (by decide +kernel)
  have reported : two.run {} () = .reported (report two.id last) := by rw [Scheduler.run, run]
  have failed : .failed ∈ (report two.id last).states := by
    rw [show (report two.id last).states = _ from states]
    decide
  obtain ⟨f, e, m, next, failure, stops⟩ := (first_failure_stops two collected rfl {} ()
    fun m comes => comes.uncancelled rfl rfl calm).2 _ reported failed
  exact ⟨two, _, f, e, m, next, rfl, reported, failure, stops⟩

end Scheduler

end KeyFlow
