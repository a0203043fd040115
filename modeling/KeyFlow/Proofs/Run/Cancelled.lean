import KeyFlow.Proofs.Run.FailFast

/-!
A run whose token is cancelled. Before it records anything more the scheduler halts the books, once;
from then on nothing starts, what had not started is skipped, and a run without a failure comes to a
cancellation, even when every job has succeeded.
-/

namespace KeyFlow

namespace Machine

variable {σ : Type} {start m m' next last : Machine σ} {deps : List (List Nat)}
  {ends : List (Nat × Conclusion)}

/-! ## The moment of the cancellation -/

/-- Here the token of the run is cancelled: before the first step, or in the step that led here. -/
def CancelledAt (start m : Machine σ) : Prop :=
  Comes start m ∧ m.cancelled = true ∧
    (m = start ∨ ∃ before, Comes start before ∧ before.cancelled = false ∧ before.step = .ok m)

theorem serve_seen (h : m.serve = .ok m') : m'.seen = m.seen := by
  unfold serve at h
  split at h
  · cases h
  · split at h
    · split at h
      · cases h
      · rename_i recorded
        unfold record at recorded
        split at recorded <;> cases recorded
        cases h
        rfl
    · split at h
      · cases h
      · split at h
        · cases h
          unfold sample
          split <;> rfl
        · split at h <;> cases h
          rfl

/-- The scheduler sees a cancellation only after it took place. -/
theorem step_unseen (step : m.step = .ok m') (calm : m.cancelled = false)
    (unseen : m.seen = false) : m'.seen = false := by
  rcases step_untold step with untold | ⟨_, m₁, m₂, noticed, dispatched, served⟩
  · exact untold.seen.trans unseen
  · rw [notice, calm] at noticed
    cases noticed
    rw [serve_seen served, (dispatchAll_seen dispatched).1, unseen]

theorem CancelledAt.unseen (moment : CancelledAt start m) (kept : Kept deps start)
    (told : Told start start []) (unseen : start.seen = false) : m.seen = false := by
  obtain ⟨_, _, rfl | ⟨before, comes, calm, step⟩⟩ := moment
  · exact unseen
  · obtain ⟨ends, toldB⟩ := comes.told kept told
    refine step_unseen step calm ?_
    cases seen : before.seen with
    | false => rfl
    | true =>
      rw [toldB.seen seen] at calm
      cases calm

theorem Quiet.cancelled (quiet : Quiet m m') (cancelled : m.cancelled = true) :
    m'.cancelled = true := by
  cases quiet with
  | arrived => rfl
  | woken job =>
    unfold wake
    split <;> exact cancelled
  | sampled =>
    unfold sample
    split <;> exact cancelled
  | _ => exact cancelled

theorem Reaches.cancelled (h : Reaches m m') (cancelled : m.cancelled = true) :
    m'.cancelled = true := by
  refine h.keeps (P := fun m => m.cancelled = true) (fun m₁ m₂ cancelled move => ?_) cancelled
  cases move with
  | quiet quiet => exact quiet.cancelled cancelled
  | @polled job rest body polls =>
    rw [ranOn_cancelled]
    exact advance_cancelled cancelled

/-- Every cancelled machine of a run comes after a moment of cancellation. -/
theorem Comes.cancelledAt (comes : Comes start m) (cancelled : m.cancelled = true) :
    ∃ m₀, CancelledAt start m₀ ∧ Comes m₀ m := by
  induction comes with
  | refl => exact ⟨start, ⟨.refl, cancelled, .inl rfl⟩, .refl⟩
  | @tail m₁ m₂ comes step ih =>
    cases before : m₁.cancelled with
    | false => exact ⟨m₂, ⟨comes.tail step, cancelled, .inr ⟨m₁, comes, before, step⟩⟩, .refl⟩
    | true =>
      obtain ⟨m₀, moment, later⟩ := ih before
      exact ⟨m₀, moment, later.tail step⟩

/-! ## The scheduler's next turn -/

/-- A body that runs after the cancellation wakes nobody. -/
theorem poll_of_cancelled (cancelled : m.cancelled = true) (job : Nat) :
    (m.poll job).queue = m.queue ∧ (m.poll job).busy = m.busy ∧ (m.poll job).cancelled = true := by
  unfold poll
  split
  · rename_i body slot
    show (m.leave job _ _).queue = _ ∧ (m.leave job _ _).busy = _ ∧ (m.leave job _ _).cancelled = _
    have still : (body.advance (m.world job)).2.cancelled = true := advance_cancelled cancelled
    rw [leave, cancelled, Bool.not_true, Bool.and_false]
    simp only [Bool.false_eq_true, if_false]
    cases (body.advance (m.world job)).1 <;> exact ⟨rfl, rfl, still⟩
  · exact ⟨rfl, rfl, cancelled⟩

/-- After the cancellation the bodies in the queue run on, and then it is the scheduler's turn. -/
theorem comes_to_loop (cancelled : m.cancelled = true) (unseen : m.seen = false) :
    ∃ m', Comes m m' ∧ Untold m m' ∧ m'.cancelled = true ∧ m'.Loops := by
  cases busy : m.busy with
  | true => exact ⟨m, .refl, .refl m, cancelled, .inl busy⟩
  | false =>
    induction queue : m.queue generalizing m with
    | nil =>
      refine ⟨m, .refl, .refl m, cancelled, .inr ⟨queue, ?_⟩⟩
      rw [hasNews, cancelled, unseen]
      rfl
    | cons job rest ih =>
      have untold := Untold.turn m job rest
      obtain ⟨same, resting, still⟩ :=
        poll_of_cancelled (m := { m with queue := rest }) cancelled job
      obtain ⟨m', comes, untold', cancelled', loops⟩ :=
        ih still (untold.seen.trans unseen) (resting.trans busy) same
      exact ⟨m', .head (step_queue busy queue) comes, untold.trans untold', cancelled', loops⟩

theorem notice_of_unseen (cancelled : m.cancelled = true) (unseen : m.seen = false) {books : Books}
    (halted : m.books.halt .cancelled = .ok books) :
    m.notice = .ok { m with seen := true, books } := by
  rw [notice, if_pos (by simp [cancelled, unseen]), halted]

/-! ## What halted the books before -/

/-- A failure was recorded in a run that does not go on after failures. -/
def FailedFast (m : Machine σ) : Prop :=
  m.books.continueOnError = false ∧ ∃ j, .recorded j .failed ∈ m.timeline

/-- Until the scheduler sees a cancellation, failures are what halts the books. -/
def HaltedByFailure (m : Machine σ) : Prop :=
  m.seen = false → (m.books.halted.isSome = true ↔ m.FailedFast)

theorem HaltedByFailure.congr (h : HaltedByFailure m) (books : m'.books = m.books)
    (timeline : m'.timeline = m.timeline) (seen : m'.seen = m.seen) : HaltedByFailure m' := by
  rw [HaltedByFailure, FailedFast, books, timeline, seen]
  exact h

theorem HaltedByFailure.quiet (h : HaltedByFailure m) (kept : Kept deps m) (quiet : Quiet m m') :
    HaltedByFailure m' := by
  cases quiet with
  | turned | rested | passed | arrived | passedOver => exact h
  | sampled =>
    unfold sample
    split <;> exact h
  | woken job =>
    have untold := Untold.wake m job
    exact h.congr untold.books untold.timeline untold.seen
  | noticed => exact nofun
  | waited next =>
    have answered := kept.sound.answered next
    intro unseen
    show _ ↔ _ = false ∧ ∃ j, .recorded j .failed ∈ m.timeline
    rw [answered.halted, answered.frame.continueOnError]
    exact h unseen
  | @dispatched books job body next slot =>
    have answered := kept.sound.answered next
    intro unseen
    show _ ↔ _ = false ∧ ∃ j, .recorded j .failed ∈ m.timeline ++ [.started job]
    rw [answered.halted, answered.frame.continueOnError]
    simpa [FailedFast] using h unseen
  | forgone next gone => exact (kept.not_gone next gone).elim
  | @recorded books job c rest conclusions complete =>
    have completes := kept.completes conclusions complete
    intro unseen
    have before := h unseen
    rw [FailedFast] at before
    show _ ↔ _ = false ∧ ∃ j, .recorded j .failed ∈ m.timeline ++ [.recorded job c.outcome]
    rw [completes.halted, completes.frame.continueOnError]
    by_cases stops : c.outcome = .failed ∧ m.books.continueOnError = false
    · rw [if_pos stops, Option.isSome_or]
      simp only [Option.isSome_some, Bool.or_true, true_iff]
      refine ⟨stops.2, job, ?_⟩
      rw [stops.1]
      exact List.mem_append_right _ (List.mem_singleton_self _)
    · rw [if_neg stops, before]
      refine and_congr_right fun mode => exists_congr fun j => ?_
      rw [List.mem_append, List.mem_singleton, Moment.recorded.injEq]
      exact (or_iff_left fun new => stops ⟨new.2.symm, mode⟩).symm

theorem Comes.haltedByFailure (comes : Comes start m) (kept : Kept deps start)
    (untold : start.timeline = []) (unhalted : start.books.halted = none) : HaltedByFailure m := by
  have both : Kept deps m ∧ HaltedByFailure m := by
    refine comes.keeps (P := fun m => Kept deps m ∧ HaltedByFailure m) ?_ ?_ ⟨kept, fun _ => ?_⟩
    · rintro m m' ⟨kept, h⟩ quiet
      exact ⟨kept.quiet quiet, h.quiet kept quiet⟩
    · rintro m job rest body _ _ polls ⟨kept, h⟩
      obtain ⟨books, _, timeline, seen⟩ := m.ranOn_records job rest body
      exact ⟨kept.polled polls, h.congr books timeline seen⟩
    · rw [FailedFast, untold, unhalted]
      simp
  exact both.2

theorem Serves.cancelledAt (serves : Serves start m) (cancelled : m.cancelled = true) :
    ∃ m₀, CancelledAt start m₀ := by
  obtain ⟨m₁, m₂, comes, _, noticed, dispatched⟩ := serves
  rw [(dispatchAll_seen dispatched).2] at cancelled
  have before : m₁.cancelled = true := by
    unfold notice at noticed
    split at noticed
    · rename_i unseen
      exact (Bool.and_eq_true _ _ ▸ unseen).1
    · cases noticed
      exact cancelled
  obtain ⟨m₀, moment, _⟩ := comes.cancelledAt before
  exact ⟨m₀, moment⟩

/-! ## The halt -/

/-- Why a job that had not started is skipped when a cancellation halts the books: for the block of
a dependency, or for the cancellation when no dependency has one. -/
def SkippedFor (deps : List (List Nat)) (b : Books) (j : Nat) (cause : SkipCause) : Prop :=
  (cause = .cancelled ∧ ∀ d ∈ deps[j]?.getD [], b.blocksOf d = none) ∨
    ∃ d ∈ deps[j]?.getD [], b.blocksOf d = some cause

/-- After the cancellation of `m₀` the scheduler has its next turn in `m`, where it halts the books;
`books` are what it leaves. -/
structure Sees (deps : List (List Nat)) (start m₀ m : Machine σ) (books : Books) : Prop where
  comes : Comes m₀ m
  /-- No job is started and no end is recorded before. -/
  untold : Untold m₀ m
  loops : m.Loops
  noticed : m.notice = .ok { m with seen := true, books }
  /-- Nothing is started afterwards. -/
  shut : ∀ now, Comes m now →
    ∃ later, now.timeline = m.timeline ++ later ∧ ∀ j, .started j ∉ later
  /-- After the halt of a failure this one changes nothing. -/
  unchanged : m.FailedFast → books = m.books
  skipped : ¬ m.FailedFast → ∀ j, m.books.stateOf j = some .pending →
    ∃ cause, books.stateOf j = some (.skipped cause) ∧ SkippedFor deps m.books j cause

theorem Loops.after_notice (loops : m.Loops) {m₁ : Machine σ}
    (noticed : m.notice = .ok m₁) (comes : Comes m m') : m' = m ∨ Reaches m₁ m' := by
  rcases Relation.ReflTransGen.cases_head comes with rfl | ⟨m₂, step, later⟩
  · exact .inl rfl
  · right
    rw [loops.step] at step
    obtain ⟨m₁', m₃, noticed', dispatched, served⟩ := round_ok step
    rw [noticed] at noticed'
    cases noticed'
    obtain ⟨m₄, books, quietly, next, rfl⟩ := quietly_dispatchAll dispatched
    exact (quietly.trans (.trans (.single (.waited next)) (quietly_serve served))).reaches.trans
      (Comes.reaches later)

/-- The last turn of the scheduler comes after the halt. -/
theorem Serves.after_notice (serves : Serves start last) (finished : last.books.isFinished = true)
    (comes : Comes start m) (loops : m.Loops) {m₁ : Machine σ}
    (noticed : m.notice = .ok m₁) : Reaches m₁ last := by
  obtain ⟨p, p₁, comes', loops', noticed', dispatched⟩ := serves
  obtain ⟨p₂, books, quietly, next, rfl⟩ := quietly_dispatchAll dispatched
  have stops : ∀ p', p.step ≠ .ok p' := by
    intro p' step
    rw [loops'.step, round_eq_serve noticed' dispatched, serve_finished finished] at step
    cases step
  have before : Comes m p := by
    rcases comes.linear comes' with before | after
    · exact before
    · rcases Relation.ReflTransGen.cases_head after with rfl | ⟨p', step, _⟩
      · exact .refl
      · exact absurd step (stops p')
  rcases loops.after_notice noticed before with rfl | reached
  · rw [noticed] at noticed'
    cases noticed'
    exact (quietly.trans (.single (.waited next))).reaches
  · exact reached.trans ((quietly_notice noticed').trans
      (quietly.trans (.single (.waited next)))).reaches

theorem CancelledAt.sees {m₀ : Machine σ} (moment : CancelledAt start m₀) (kept : Kept deps start)
    (told : Told start start []) (unseen : start.seen = false) (untold : start.timeline = [])
    (unhalted : start.books.halted = none) :
    ∃ m books, Sees deps start m₀ m books ∧ m.books.halt .cancelled = .ok books := by
  obtain ⟨m, later, same, cancelled, loops⟩ :=
    comes_to_loop moment.2.1 (moment.unseen kept told unseen)
  have comes : Comes start m := Relation.ReflTransGen.trans moment.1 later
  have keptM := kept.reaches comes.reaches
  have unseen' : m.seen = false := same.seen.trans (moment.unseen kept told unseen)
  have byFailure := comes.haltedByFailure kept untold unhalted unseen'
  obtain ⟨books, halted, halts⟩ := Books.halt_ok keptM.sound .cancelled
  have noticed := notice_of_unseen cancelled unseen' halted
  have kept₁ := keptM.noticed halted
  refine ⟨m, books, ⟨later, same, loops, noticed, fun now after => ?_, fun failed => ?_,
    fun unfailed j pending => ?_⟩, halted⟩
  · rcases loops.after_notice noticed after with rfl | reached
    · exact ⟨[], (List.append_nil _).symm, fun _ => List.not_mem_nil⟩
    · obtain ⟨more, timeline, quiet⟩ := (kept₁.keeps reached).timeline
      exact ⟨more, timeline, quiet halts.isSome⟩
  · rw [Books.halt_of_halted (byFailure.mpr failed)] at halted
    cases halted
    rfl
  · have unhalted : m.books.halted = none := by
      rw [← byFailure] at unfailed
      simpa using unfailed
    obtain ⟨x, found, waits⟩ := Books.entry_of_stateOf pending
    have state := Books.stateOf_halt unhalted halted found waits
    rcases keptM.sound.tied.block_cases found waits with
      ⟨free, unblocked⟩ | ⟨d, named, cause, block, blocks⟩
    · exact ⟨.cancelled, by rw [state, free]; rfl, .inl ⟨rfl, unblocked⟩⟩
    · exact ⟨cause, by rw [state, block]; rfl, .inr ⟨d, named, blocks⟩⟩

end Machine

namespace Report

variable {σ : Type}

/-- What the report says of a run whose scheduler saw a cancellation in `m`. -/
structure CancelledIn (r : Report σ) (deps : List (List Nat)) (start m : Machine σ) : Prop where
  timeline : ∃ later, r.timeline = m.timeline ++ later ∧ ∀ j, .started j ∉ later
  pending : ¬ m.FailedFast → ∀ j, m.books.stateOf j = some .pending →
    ∃ cause, r.states[j]? = some (.skipped cause) ∧ Machine.SkippedFor deps m.books j cause
  /-- A job that was started before comes to its own end. -/
  started : ∀ j state, m.books.stateOf j = some state → state.wasStarted = true →
    ∃ c, start.EndsWith j c ∧ r.states[j]? = some c.outcome.state
  ended : ∀ j state, m.books.stateOf j = some state → state.isTerminal = true →
    r.states[j]? = some state
  /-- The first failure of the whole run is its result; without one it is a cancellation. -/
  result : ∃ failures : List (Nat × Error),
    failures.map (·.1) = r.timeline.filterMap Moment.failed? ∧
    (∀ failure ∈ failures, ∃ c : Conclusion, start.EndsWith failure.1 c ∧
      c.error? = some failure.2) ∧
    r.result = .error ((failures.head?.map (·.2)).getD .cancelled)

end Report

namespace Scheduler

variable {σ : Type} {s : Scheduler σ} {deps : List (List Nat)}

open Machine in
theorem report_cancelledIn {c : Conditions σ} {shared : σ} {m₀ m last : Machine σ} {books : Books}
    {ends : List (Nat × Conclusion)} (fresh : Unstarted deps s)
    (moment : CancelledAt (s.start c shared) m₀) (sees : Sees deps (s.start c shared) m₀ m books)
    (halted : m.books.halt .cancelled = .ok books)
    (rests : Rests deps (s.start c shared) last ends) (serves : Serves (s.start c shared) last)
    (finished : last.books.isFinished = true) :
    (report s.id last).CancelledIn deps (s.start c shared) m := by
  have kept := fresh.kept c shared
  have comes : Comes (s.start c shared) m := Relation.ReflTransGen.trans moment.1 sees.comes
  have keptM := kept.reaches comes.reaches
  obtain ⟨ends', toldM⟩ := comes.told kept (fresh.told c shared)
  have kept₁ := keptM.noticed halted
  have first := keptM.keeps_noticed halted
  have reached := serves.after_notice finished comes sees.loops sees.noticed
  have rest := kept₁.keeps reached
  have keeps := first.trans rest
  have states (j : Nat) : (report s.id last).states[j]? = last.books.stateOf j :=
    Books.getElem?_states ..
  have tells := report_tells (s := s) rests
  constructor
  case timeline =>
    obtain ⟨more, timeline, quiet⟩ := rest.timeline
    exact ⟨more, timeline, quiet (keptM.sound.halts halted).isSome⟩
  case pending =>
    intro unfailed j pending
    obtain ⟨cause, skipped, why⟩ := sees.skipped unfailed j pending
    exact ⟨cause, (states j).trans (rest.ended j _ skipped rfl), why⟩
  case started =>
    intro j state found started
    rw [states]
    exact rests.own_end keeps toldM found started
  case ended =>
    exact fun j state found terminal => (states j).trans (keeps.ended j state found terminal)
  case result =>
    have cancelled : last.cancelled = true :=
      reached.cancelled (sees.comes.reaches.cancelled moment.2.1)
    refine ⟨failuresOf ends, tells.order, fun failure mem => (tells.own _ _).mp mem, ?_⟩
    rw [tells.result]
    cases listed : failuresOf ends with
    | nil =>
      rw [tells.cancelled listed, cancelled]
      rfl
    | cons failure failures =>
      rw [tells.errors (by rw [listed]; nofun), listed]
      rfl

/-! ## A token that was cancelled before the run -/

/-- Nothing comes of a run whose token was cancelled before. -/
theorem Unstarted.run_cancelled (fresh : Unstarted deps s) {c : Conditions σ}
    (cancelled : c.cancelled = true) (shared : σ) :
    ∃ r, s.run c shared = .reported r ∧ r.timeline = [] ∧
      r.states = List.replicate s.size (.skipped .cancelled) ∧ r.result = .error .cancelled ∧
      ∀ m j, ¬ (s.start c shared).Begins m j := by
  obtain ⟨books, halted, halts⟩ := Books.halt_ok fresh.sound .cancelled
  have skipped (j : Nat) (state : JobState) (found : books.stateOf j = some state) :
      state = .skipped .cancelled := by
    have entry := List.getElem?_eq_getElem (halts.frame.length ▸ Books.lt_of_stateOf found)
    have waits := fresh.pending j _ (Books.stateOf_eq entry)
    rw [Books.stateOf_halt fresh.halted halted entry waits, Option.some.injEq] at found
    rcases fresh.sound.tied.block_cases entry waits with ⟨free, _⟩ | ⟨d, _, cause, _, blocks⟩
    · rw [← found, free]
      rfl
    · -- No dependency is at an end before the run.
      obtain ⟨before, found, blocks⟩ := Option.bind_eq_some_iff.mp blocks
      rw [fresh.pending d before found] at blocks
      cases blocks
  have all : ∀ state ∈ books.states, state = .skipped .cancelled := by
    intro state mem
    obtain ⟨j, found⟩ := List.mem_iff_getElem?.mp mem
    exact skipped j state ((Books.getElem?_states ..).symm.trans found)
  let m : Machine σ := { s.start c shared with seen := true, books }
  have noticed : (s.start c shared).notice = .ok m :=
    Machine.notice_of_unseen cancelled rfl halted
  have dispatched : m.dispatchAll = .ok m := by
    have next : m.books.nextDispatch = .ok (none, books) := by
      rw [Books.nextDispatch, if_pos]
      show (books.halted.isSome || _) = true
      rw [halts.isSome]
      rfl
    exact Machine.dispatchAll_none next
  have finished : m.books.isFinished = true := by
    refine halts.sound.finished_of_ended fun state mem => ?_
    rw [all state mem]
    rfl
  have stops : (s.start c shared).step = .error (.finished m) := by
    rw [Machine.Loops.step (.inl rfl), Machine.round_eq_serve noticed dispatched,
      Machine.serve_finished finished]
  have run := Machine.run_error stops
  refine ⟨report s.id m, by rw [Scheduler.run, run], rfl, ?_, rfl, fun m' j begins => ?_⟩
  · refine List.eq_replicate_iff.mpr ⟨?_, all⟩
    exact (List.length_map ..).trans halts.frame.length
  · obtain ⟨comes, resting, _⟩ := begins
    rcases Relation.ReflTransGen.cases_head comes with rfl | ⟨_, step, _⟩
    · cases resting
    · rw [stops] at step
      cases step

/-! ## The theorem -/

/-- When the token of a run is cancelled, the scheduler halts the books in its next turn, before it
records anything more: no job is started any more, and unless a failure had halted the run before,
each job that had not started is skipped for the cancellation or for the block of a dependency. Jobs
that had been started come to their own ends. The run comes to its first failure, or without one to
a cancellation. With a token that was cancelled before, no body begins. -/
theorem cancellation_stops (s : Scheduler σ) (collected : s.Collected deps) (c : Conditions σ)
    (shared : σ) :
    (∀ m₀, Machine.CancelledAt (s.start c shared) m₀ →
      ∃ m books, Machine.Sees deps (s.start c shared) m₀ m books ∧
        ∀ r, s.run c shared = .reported r → r.CancelledIn deps (s.start c shared) m) ∧
    (c.cancelled = true → ∃ r, s.run c shared = .reported r ∧ r.timeline = [] ∧
      r.states = List.replicate s.size (.skipped .cancelled) ∧ r.result = .error .cancelled ∧
      ∀ m j, ¬ (s.start c shared).Begins m j) := by
  have fresh := collected.unstarted
  have kept := fresh.kept c shared
  have told := fresh.told c shared
  refine ⟨fun m₀ moment => ?_, fun cancelled => fresh.run_cancelled cancelled shared⟩
  obtain ⟨m, books, sees, halted⟩ := moment.sees kept told rfl rfl fresh.halted
  refine ⟨m, books, sees, fun r reported => ?_⟩
  obtain ⟨last, finished, rfl⟩ := finished_of_reported reported
  obtain ⟨ends, rests⟩ := kept.rests told finished
  obtain ⟨serves, done⟩ := kept.finished_serves finished
  exact report_cancelledIn fresh moment sees halted rests serves done

/-- The only job that starts cancels the run, and succeeds; the other one waits for it. -/
theorem cancellation_stops_two : ∃ (s : Scheduler Unit) (m₀ m : Machine Unit) (books : Books)
    (r r' : Report Unit), s.size = 2 ∧ Machine.CancelledAt (s.start {} ()) m₀ ∧
      Machine.Sees [[], [0]] (s.start {} ()) m₀ m books ∧ s.run {} () = .reported r ∧
      r.CancelledIn [[], [0]] (s.start {} ()) m ∧
      s.run { cancelled := true } () = .reported r' ∧ r'.timeline = [] := by
  let job : Job Unit := { body := .cancelRun (.done (.returned .done)) }
  let behind : Job Unit := { job with dependencies := [⟨0, 0⟩] }
  let one := ((create 0 {}).enqueue job).2
  let two := (one.enqueue behind).2
  have first : (create 0 {}).enqueue job = (.ok ⟨0, 0⟩, one) := rfl
  have second : one.enqueue behind = (.ok ⟨0, 1⟩, two) := rfl
  have collected : two.Collected [[], [0]] := by
    refine .taken (.taken (.create 0 {}) (by simp [job]) first) (fun h mem _ => ?_) second
    rw [List.mem_singleton.mp mem]
    decide
  obtain ⟨last, run, cancelled⟩ : ∃ last, (two.start {} ()).run = .finished last ∧
      last.cancelled = true := Machine.run_finished_of_within (n := 9) (by decide +kernel)
  obtain ⟨m₀, moment⟩ :=
    ((collected.unstarted.kept {} ()).finished_serves run).1.cancelledAt cancelled
  have reported : two.run {} () = .reported (report two.id last) := by rw [Scheduler.run, run]
  obtain ⟨m, books, sees, reports⟩ := (cancellation_stops two collected {} ()).1 m₀ moment
  obtain ⟨r', reported', untold, _⟩ :=
    (cancellation_stops two collected { cancelled := true } ()).2 rfl
  exact ⟨two, m₀, m, books, _, r', rfl, moment, sees, reported, reports _ reported, reported',
    untold⟩

end Scheduler

end KeyFlow
