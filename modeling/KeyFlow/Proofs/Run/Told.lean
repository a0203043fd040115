import KeyFlow.Proofs.Run.History

/-!
What a run has told so far. Its timeline, its errors and the states in its books are three records
of the same events: each body that was started is told once, and each end that was recorded has its
moment, its error if it has one, and the state of its job.
-/

namespace KeyFlow

/-- The body of the job was started. -/
def JobState.wasStarted : JobState → Bool
  | .running | .succeeded | .failed | .skipped .declined => true
  | _ => false

def Moment.recorded? : Moment → Option (Nat × Outcome)
  | .recorded job outcome => some (job, outcome)
  | .started _ => none

theorem Outcome.state_ne_running (o : Outcome) : o.state ≠ .running := by cases o <;> nofun

theorem JobState.outcome_of_started {s : JobState} (terminal : s.isTerminal = true)
    (started : s.wasStarted = true) : ∃ o : Outcome, s = o.state := by
  cases s with
  | pending | running => cases terminal
  | succeeded => exact ⟨.succeeded, rfl⟩
  | failed => exact ⟨.failed, rfl⟩
  | skipped cause =>
    cases cause with
    | declined => exact ⟨.declined, rfl⟩
    | _ => cases started

theorem Outcome.wasStarted (o : Outcome) : o.state.wasStarted = true := by cases o <;> rfl

namespace Books.SkipsBut

variable {out : Nat → Prop} {b b' : Books} {i : Nat}

theorem outcome_iff (skips : SkipsBut out b b') (length : b'.jobs.length = b.jobs.length)
    (notDeclined : b'.halted ≠ some .declined) (h : ¬ out i) (o : Outcome) :
    b'.stateOf i = some o.state ↔ b.stateOf i = some o.state := by
  constructor
  · intro found
    refine (skips.cases length notDeclined h found).resolve_right ?_
    rintro ⟨_, cause, skipped, clean⟩
    cases o <;> cases skipped
    exact clean rfl
  · intro found
    refine (skips i _ h found).resolve_right ?_
    rintro ⟨pending, _⟩
    cases o <;> cases pending

theorem wasStarted (skips : SkipsBut out b b') (length : b'.jobs.length = b.jobs.length)
    (notDeclined : b'.halted ≠ some .declined) (h : ¬ out i) {state : JobState}
    (found : b'.stateOf i = some state) :
    ∃ before, b.stateOf i = some before ∧ before.wasStarted = state.wasStarted := by
  rcases skips.cases length notDeclined h found with same | ⟨pending, cause, rfl, clean⟩
  · exact ⟨state, same, rfl⟩
  · refine ⟨.pending, pending, ?_⟩
    cases cause <;> first | rfl | exact absurd rfl clean

end Books.SkipsBut

namespace Machine

variable {σ : Type} {start m m' : Machine σ} {deps : List (List Nat)}
  {ends : List (Nat × Conclusion)}

/-- The books were halted for a reason that the run has seen. -/
def HaltedFor (cancelled : Bool) (b : Books) (cause : SkipCause) : Prop :=
  (cause = .cancelled ∧ cancelled = true) ∨
    (cause = .flowFailed ∧ ∃ j, b.stateOf j = some .failed)

theorem HaltedFor.ne_declined {cancelled : Bool} {b : Books} {cause : SkipCause}
    (h : HaltedFor cancelled b cause) : cause ≠ .declined := by
  rcases h with ⟨rfl, _⟩ | ⟨rfl, _⟩ <;> nofun

/-- The records agree on the ends that were recorded so far. -/
structure Told (start m : Machine σ) (ends : List (Nat × Conclusion)) : Prop where
  recorded : m.timeline.filterMap Moment.recorded? = ends.map fun e => (e.1, e.2.outcome)
  errors : m.errors = ends.filterMap (·.2.error?)
  history : ∀ e ∈ ends ++ m.conclusions, start.EndsWith e.1 e.2
  ended : ∀ j o, m.books.stateOf j = some (Outcome.state o) ↔
    ∃ c : Conclusion, (j, c) ∈ ends ∧ c.outcome = o
  once : (ends.map (·.1)).Nodup
  started : ∀ j state, m.books.stateOf j = some state →
    m.timeline.count (.started j) = if state.wasStarted then 1 else 0
  fresh : ∀ j state, m.books.stateOf j = some state →
    (state.wasStarted = true ↔ ∀ body, m.slots[j]? ≠ some (.fresh body))
  halted : ∀ cause, m.books.halted = some cause → HaltedFor m.cancelled m.books cause
  seen : m.seen = true → m.cancelled = true

/-- Some jobs were skipped that were not started. -/
theorem Told.withBooks (told : Told start m ends) {books : Books}
    (length : books.jobs.length = m.books.jobs.length)
    (skips : Books.SkipsBut (fun _ => False) m.books books)
    (halted : ∀ cause, books.halted = some cause → HaltedFor m.cancelled books cause) :
    Told start { m with books } ends := by
  have notDeclined : books.halted ≠ some .declined :=
    fun declined => (halted _ declined).ne_declined rfl
  refine ⟨told.recorded, told.errors, told.history, fun j o => ?_, told.once,
    fun j state found => ?_, fun j state found => ?_, halted, told.seen⟩
  · rw [← told.ended]
    exact skips.outcome_iff length notDeclined id o
  · obtain ⟨before, found', same⟩ := skips.wasStarted length notDeclined id found
    rw [← same]
    exact told.started j before found'
  · obtain ⟨before, found', same⟩ := skips.wasStarted length notDeclined id found
    rw [← same]
    exact told.fresh j before found'

theorem HaltedFor.failed {cancelled : Bool} {b b' : Books} {cause : SkipCause}
    (h : HaltedFor cancelled b cause)
    (kept : ∀ j, b.stateOf j = some .failed → b'.stateOf j = some .failed) :
    HaltedFor cancelled b' cause :=
  h.imp_right fun ⟨is, j, failed⟩ => ⟨is, j, kept j failed⟩

theorem not_fresh_of_set {job : Nat} {old new : Slot σ} (found : m.slots[job]? = some old)
    (slots : m'.slots = m.slots.set job new) (unfresh : ∀ body, new ≠ .fresh body) :
    ∀ body, m'.slots[job]? ≠ some (.fresh body) := by
  intro body
  rw [slot_set_self found slots, Ne, Option.some.injEq]
  exact unfresh body

theorem Told.wake (told : Told start m ends) (job : Nat) : Told start (m.wake job) ends := by
  unfold Machine.wake
  split
  case h_3 => exact told
  all_goals
    rename_i found
    refine ⟨told.recorded, told.errors, told.history, told.ended, told.once, told.started,
      fun j state stateIs => ?_, told.halted, told.seen⟩
    by_cases same : j = job
    · subst same
      rw [told.fresh j state stateIs, found]
      exact ⟨fun _ => not_fresh_of_set found rfl nofun, fun _ _ => nofun⟩
    · rw [slot_set_ne (m := m) rfl same]
      exact told.fresh j state stateIs

theorem Told.noticed (told : Told start m ends) (kept : Kept deps m) {books : Books}
    (cancelled : m.cancelled = true) (halted : m.books.halt .cancelled = .ok books) :
    Told start { m with seen := true, books } ends := by
  have halts := kept.sound.halts halted
  have haltedFor : ∀ cause, books.halted = some cause → HaltedFor m.cancelled books cause := by
    intro cause closed
    rw [halts.halted, Option.or_eq_some_iff] at closed
    rcases closed with before | ⟨_, now⟩
    · exact (told.halted cause before).failed fun j failed => halts.skips.ended id failed rfl
    · exact .inl ⟨(Option.some.inj now).symm, cancelled⟩
  exact { told.withBooks halts.frame.length halts.skips haltedFor with seen := fun _ => cancelled }

theorem Told.waited (told : Told start m ends) (kept : Kept deps m) {books : Books}
    (next : m.books.nextDispatch = .ok (none, books)) : Told start { m with books } ends := by
  have answered := kept.sound.answered next
  refine told.withBooks answered.frame.length answered.skips_none fun cause closed => ?_
  rw [answered.halted] at closed
  exact (told.halted cause closed).failed fun j failed => answered.skips_none.ended id failed rfl

theorem Told.dispatched (told : Told start m ends) (kept : Kept deps m) {books : Books} {job : Nat}
    {body : JobBody σ} (next : m.books.nextDispatch = .ok (some job, books))
    (slot : m.slots[job]? = some (.fresh body)) :
    Told start { m with
      books
      slots := m.slots.set job (.queued body)
      queue := m.queue ++ [job]
      tokens := m.tokens ++ [job]
      timeline := m.timeline ++ [.started job] } ends := by
  have answered := kept.sound.answered next
  have begins := answered.begins job rfl
  have length := answered.frame.length
  have unhalted : books.halted = none := answered.halted.trans begins.unhalted
  have notDeclined : books.halted ≠ some .declined := by
    rw [unhalted]
    nofun
  have other {j : Nat} (ne : j ≠ job) : ¬ some job = some j := fun same =>
    ne (Option.some.inj same).symm
  refine ⟨?_, told.errors, told.history, fun j o => ?_, told.once, fun j state found => ?_,
    fun j state found => ?_, fun cause halted => ?_, told.seen⟩
  · rw [List.filterMap_append, told.recorded]
    exact List.append_nil _
  · rw [← told.ended]
    by_cases same : j = job
    · subst same
      rw [begins.running, begins.pending]
      cases o <;> exact ⟨nofun, nofun⟩
    · exact answered.skips.outcome_iff length notDeclined (other same) o
  · rw [List.count_append]
    by_cases same : j = job
    · subst same
      rw [begins.running, Option.some.injEq] at found
      rw [told.started j _ begins.pending, ← found]
      simp [JobState.wasStarted]
    · obtain ⟨before, found', started⟩ :=
        answered.skips.wasStarted length notDeclined (other same) found
      rw [told.started j before found', started]
      simp [Ne.symm same]
  · by_cases same : j = job
    · subst same
      rw [begins.running, Option.some.injEq] at found
      rw [← found]
      exact ⟨fun _ => not_fresh_of_set slot rfl nofun, fun _ => rfl⟩
    · obtain ⟨before, found', started⟩ :=
        answered.skips.wasStarted length notDeclined (other same) found
      rw [← started, slot_set_ne (m := m) rfl same]
      exact told.fresh j before found'
  · rw [unhalted] at halted
    cases halted

/-- A failure is a reason to halt the books. -/
theorem HaltedFor.completed {cancelled : Bool} {b b' : Books} {job : Nat} {o : Outcome}
    {cause : SkipCause} (before : ∀ cause, b.halted = some cause → HaltedFor cancelled b cause)
    (running : b.stateOf job = some .running) (completes : b.Completes deps job o b')
    (closed : b'.halted = some cause) : HaltedFor cancelled b' cause := by
  have old (closed : b.halted = some cause) : HaltedFor cancelled b' cause := by
    refine (before cause closed).failed fun j failed => ?_
    have ne : j ≠ job := by
      rintro rfl
      rw [running] at failed
      cases failed
    exact completes.skips.ended ne failed rfl
  rw [completes.halted] at closed
  split at closed
  · rename_i failed
    rw [Option.or_eq_some_iff] at closed
    rcases closed with before | ⟨_, now⟩
    · exact old before
    · refine .inr ⟨(Option.some.inj now).symm, job, ?_⟩
      rw [completes.ended, failed.1]
      rfl
  · exact old closed

theorem Told.unrecorded (told : Told start m ends) {job : Nat}
    (running : m.books.stateOf job = some .running) (c : Conclusion) : (job, c) ∉ ends := by
  intro mem
  have state := (told.ended job c.outcome).mpr ⟨c, mem, rfl⟩
  rw [running, Option.some.injEq] at state
  exact c.outcome.state_ne_running state.symm

/-- An end that waited to be recorded is told. -/
theorem Told.record (told : Told start m ends) (kept : Kept deps m) {books : Books} {job : Nat}
    {c : Conclusion} {rest : List (Nat × Conclusion)}
    (conclusions : m.conclusions = (job, c) :: rest)
    (complete : m.books.complete job c.outcome = .ok books) :
    Told start { m with
      conclusions := rest
      busy := true
      books
      errors := m.errors ++ c.error?.toList
      timeline := m.timeline ++ [.recorded job c.outcome] } (ends ++ [(job, c)]) := by
  have running := kept.running_head conclusions
  have completes := kept.completes conclusions complete
  have length := completes.frame.length
  have unrecorded := told.unrecorded running
  have haltedFor : ∀ cause, books.halted = some cause → HaltedFor m.cancelled books cause :=
    fun cause => HaltedFor.completed told.halted running completes
  have notDeclined : books.halted ≠ some .declined :=
    fun declined => (haltedFor _ declined).ne_declined rfl
  refine ⟨?_, ?_, ?_, fun j o => ?_, ?_, fun j s found => ?_, fun j s found => ?_, haltedFor,
    told.seen⟩
  · rw [List.filterMap_append, told.recorded, List.map_append]
    rfl
  · show m.errors ++ _ = _
    rw [told.errors, List.filterMap_append, List.filterMap_cons]
    cases c.error? <;> rfl
  · intro e mem
    refine told.history e ?_
    rw [conclusions]
    simpa using mem
  · by_cases same : j = job
    · subst same
      rw [completes.ended, Option.some.injEq]
      constructor
      · intro is
        exact ⟨c, List.mem_append_right _ (List.mem_singleton_self _), Outcome.state_inj is⟩
      · rintro ⟨c', mem, rfl⟩
        rcases List.mem_append.mp mem with before | now
        · exact absurd before (unrecorded c')
        · cases List.mem_singleton.mp now
          rfl
    · rw [completes.skips.outcome_iff length notDeclined same, told.ended]
      refine exists_congr fun c' => and_congr_left fun _ => ?_
      rw [List.mem_append, List.mem_singleton, Prod.mk.injEq]
      exact (or_iff_left fun now => same now.1).symm
  · rw [List.map_append, List.nodup_append_comm]
    refine List.nodup_cons.mpr ⟨fun mem => ?_, told.once⟩
    obtain ⟨⟨_, c'⟩, before, rfl⟩ := List.mem_map.mp mem
    exact unrecorded c' before
  · rw [List.count_append, List.count_singleton, if_neg (by simp), Nat.add_zero]
    by_cases same : j = job
    · subst same
      rw [completes.ended, Option.some.injEq] at found
      rw [told.started j _ running, ← found, c.outcome.wasStarted]
      rfl
    · obtain ⟨before, found', started⟩ :=
        completes.skips.wasStarted length notDeclined same found
      rw [told.started j before found', started]
  · by_cases same : j = job
    · subst same
      rw [completes.ended, Option.some.injEq] at found
      rw [← told.fresh j _ running, ← found, c.outcome.wasStarted]
      exact Iff.rfl
    · obtain ⟨before, found', started⟩ :=
        completes.skips.wasStarted length notDeclined same found
      rw [← started]
      exact told.fresh j before found'

/-! ## Bodies that ran -/

theorem advance_cancelled {body : JobBody σ} {w : World σ} (cancelled : w.cancelled = true) :
    (body.advance w).2.cancelled = true := by
  fun_induction JobBody.advance body w with
  | case1 | case4 | case6 => exact cancelled
  | case2 _ _ _ ih | case3 _ _ ih | case5 _ _ _ ih | case7 _ _ ih => exact ih cancelled
  | case8 _ _ ih => exact ih rfl
  | case9 _ _ ih => exact ih cancelled

theorem ranOn_records (m : Machine σ) (job : Nat) (rest : List Nat) (body : JobBody σ) :
    (m.ranOn job rest body).books = m.books ∧ (m.ranOn job rest body).errors = m.errors ∧
      (m.ranOn job rest body).timeline = m.timeline ∧ (m.ranOn job rest body).seen = m.seen := by
  rw [ranOn, left]
  cases (body.advance (m.world job)).1 <;> exact ⟨rfl, rfl, rfl, rfl⟩

theorem ranOn_cancelled (m : Machine σ) (job : Nat) (rest : List Nat) (body : JobBody σ) :
    (m.ranOn job rest body).cancelled = (body.advance (m.world job)).2.cancelled := by
  rw [ranOn, left]
  cases (body.advance (m.world job)).1 <;> rfl

theorem ranOn_conclusions {job : Nat} {rest : List Nat} {body : JobBody σ} {e : Nat × Conclusion}
    (mem : e ∈ (m.ranOn job rest body).conclusions) : e ∈ m.conclusions ∨
      ∃ c, e = (job, c) ∧ (body.advance (m.world job)).1 = .ended c := by
  rw [ranOn, left] at mem
  cases paused : (body.advance (m.world job)).1 with
  | asleep | awaiting =>
    rw [paused] at mem
    exact .inl mem
  | ended c =>
    rw [paused] at mem
    rcases List.mem_append.mp mem with before | now
    · exact .inl before
    · exact .inr ⟨c, List.mem_singleton.mp now, rfl⟩

theorem Told.polled (told : Told start m ends) {job : Nat} {rest : List Nat} {body : JobBody σ}
    (comes : Comes start m) (resting : m.busy = false) (polls : m.Polls job rest body) :
    Told start (m.ranOn job rest body) ends := by
  obtain ⟨books, errors, timeline, seen⟩ := m.ranOn_records job rest body
  have cancelled (before : m.cancelled = true) : (m.ranOn job rest body).cancelled = true := by
    rw [ranOn_cancelled]
    exact advance_cancelled before
  refine ⟨timeline ▸ told.recorded, errors ▸ told.errors, fun e mem => ?_, books ▸ told.ended,
    told.once, by rw [books, timeline]; exact told.started, fun j state found => ?_,
    fun cause halted => ?_, fun saw => cancelled (told.seen (seen ▸ saw))⟩
  · rcases List.mem_append.mp mem with before | now
    · exact told.history e (List.mem_append_left _ before)
    · rcases ranOn_conclusions now with before | ⟨c, rfl, paused⟩
      · exact told.history e (List.mem_append_right _ before)
      · exact ⟨m, rest, body, comes, resting, polls, paused⟩
  · rw [books] at found
    rw [told.fresh j state found]
    by_cases same : j = job
    · subst same
      rw [polls.slot]
      refine ⟨fun _ => not_fresh_of_set polls.slot (m.ranOn_slots j rest body) ?_, fun _ _ => nofun⟩
      cases (body.advance (m.world j)).1 <;> nofun
    · rw [slot_set_ne (m.ranOn_slots job rest body) same]
  · rw [books] at halted ⊢
    exact (told.halted cause halted).imp_left fun ⟨is, before⟩ => ⟨is, cancelled before⟩

theorem Told.quiet (told : Told start m ends) (kept : Kept deps m) (quiet : Quiet m m') :
    ∃ ends', Told start m' ends' := by
  cases quiet with
  | turned | rested | passed | passedOver =>
    exact ⟨ends, told.recorded, told.errors, told.history, told.ended, told.once, told.started,
      told.fresh, told.halted, told.seen⟩
  | sampled =>
    unfold sample
    split
    · exact ⟨ends, told.recorded, told.errors, told.history, told.ended, told.once, told.started,
        told.fresh, told.halted, told.seen⟩
    · exact ⟨ends, told⟩
  | arrived =>
    exact ⟨ends, told.recorded, told.errors, told.history, told.ended, told.once, told.started,
      told.fresh, fun cause halted => (told.halted cause halted).imp_left fun is => ⟨is.1, rfl⟩,
      fun _ => rfl⟩
  | woken job => exact ⟨ends, told.wake job⟩
  | noticed cancelled halted => exact ⟨ends, told.noticed kept cancelled halted⟩
  | waited next => exact ⟨ends, told.waited kept next⟩
  | dispatched next slot => exact ⟨ends, told.dispatched kept next slot⟩
  | forgone next gone => exact (kept.not_gone next gone).elim
  | recorded conclusions complete => exact ⟨_, told.record kept conclusions complete⟩

/-- The records agree all along a run. -/
theorem Comes.told (comes : Comes start m) (kept : Kept deps start) (told : Told start start []) :
    ∃ ends, Told start m ends := by
  have both : Kept deps m ∧ ∃ ends, Told start m ends := by
    refine comes.keeps (P := fun m => Kept deps m ∧ ∃ ends, Told start m ends) ?_ ?_
      ⟨kept, [], told⟩
    · rintro m m' ⟨kept, ends, told⟩ quiet
      exact ⟨kept.quiet quiet, told.quiet kept quiet⟩
    · rintro m job rest body comes resting polls ⟨kept, ends, told⟩
      exact ⟨kept.polled polls, ends, told.polled comes resting polls⟩
  exact both.2

/-- At the end the slot of a job that was started is spent. -/
theorem Kept.spent_of_started (kept : Kept deps m) {ends : List (Nat × Conclusion)}
    (told : Told start m ends) {j : Nat} {state : JobState} (found : m.books.stateOf j = some state)
    (terminal : state.isTerminal = true) (started : state.wasStarted = true) :
    m.slots[j]? = some .spent := by
  have inRange : j < m.slots.length := kept.length ▸ Books.lt_of_stateOf found
  have unfresh := (told.fresh j state found).mp started
  have resting : ¬ m.isLive j = true := by
    intro live
    rw [(kept.running j).mpr (.inl live), Option.some.injEq] at found
    rw [← found] at terminal
    cases terminal
  have slot := List.getElem?_eq_getElem inRange
  rw [isLive_of_slot slot] at resting
  rw [slot]
  cases h : m.slots[j] with
  | fresh body => exact absurd (slot.trans (congrArg some h)) (unfresh body)
  | spent => rfl
  | queued | asleep | awaiting =>
    rw [h] at resting
    exact absurd rfl resting

end Machine

namespace Scheduler

variable {σ : Type} {s : Scheduler σ} {deps : List (List Nat)}

/-- At the start of a run nothing was told. -/
theorem Unstarted.told (fresh : Unstarted deps s) (c : Conditions σ) (shared : σ) :
    Machine.Told (s.start c shared) (s.start c shared) [] where
  recorded := rfl
  errors := rfl
  history := nofun
  ended := by
    intro j o
    refine ⟨fun found => ?_, fun ⟨_, no, _⟩ => nomatch no⟩
    have pending := fresh.pending j _ found
    cases o <;> cases pending
  once := List.nodup_nil
  started := by
    intro j state found
    rw [fresh.pending j state found]
    rfl
  fresh := by
    intro j state found
    rw [fresh.pending j state found]
    refine ⟨nofun, fun unfresh => ?_⟩
    obtain ⟨body, slot⟩ := (fresh.kept c shared).fresh j (fresh.pending j state found ▸ found)
    exact absurd slot (unfresh body)
  halted := by
    intro cause halted
    rw [show (s.start c shared).books.halted = none from fresh.halted] at halted
    cases halted
  seen := nofun

/-- A body that runs has begun. -/
theorem begins_of_polls (s : Scheduler σ) {c : Conditions σ} {shared : σ} {m : Machine σ}
    (comes : Machine.Comes (s.start c shared) m) (resting : m.busy = false) {job : Nat}
    {rest : List Nat} {body : JobBody σ} (polls : m.Polls job rest body) :
    ∃ m', (s.start c shared).Begins m' job := by
  have slots : (s.start c shared).slots = s.bodies.map .fresh := rfl
  have inRange : job < s.bodies.length := by
    have inRange := (List.getElem?_eq_some_iff.mp polls.slot).1
    rwa [comes.reaches.length, slots, List.length_map] at inRange
  have fresh : (s.start c shared).slots[job]? = some (.fresh s.bodies[job]) := by
    rw [slots, List.getElem?_map, List.getElem?_eq_getElem inRange]
    rfl
  exact polls.begins comes resting fresh

end Scheduler

end KeyFlow
