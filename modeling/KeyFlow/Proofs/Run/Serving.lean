import KeyFlow.Proofs.Run.Order

/-!
The scheduler's turn. In it the scheduler sees a cancellation, starts all that it may start, and
then records one end, samples its state, waits, or stops: so every end in a timeline was recorded
by a scheduler that had started all it could.
-/

namespace KeyFlow

namespace Books

theorem signUp_limit (index : Nat) (ds : List Nat) (e : Entry) (b : Books) :
    (signUp index ds e b).2.limit = b.limit := by
  fun_induction signUp index ds e b with
  | case1 | case2 => rfl
  | case3 _ _ _ _ _ _ _ ih | case4 _ _ _ _ _ _ _ ih => exact ih

theorem addJob_limit (b : Books) (ds : List Nat) : (b.addJob ds).2.limit = b.limit := by
  have kept := signUp_limit b.jobs.length ds {} b
  rw [addJob]
  split <;> rename_i signed <;> rw [signed] at kept
  · exact kept
  · rw [← kept, enter]
    split <;> rfl

end Books

namespace Scheduler

variable {σ : Type} {s : Scheduler σ} {deps : List (List Nat)}

/-- Schedulers as they come out of calls to `enqueue`, with the dependencies of the jobs that were
taken in. A handle of the scheduler itself stands for one of its jobs. -/
inductive Collected : List (List Nat) → Scheduler σ → Prop where
  | create (id : Nat) (settings : RunSettings) : Collected [] (Scheduler.create id settings)
  | taken {deps : List (List Nat)} {s s' : Scheduler σ} {job : Job σ} {h : Handle}
    (collected : Collected deps s)
    (issued : ∀ h ∈ job.dependencies, h.scheduler = s.id → h.index < s.size)
    (taken : s.enqueue job = (.ok h, s')) :
    Collected (deps ++ [job.dependencies.map (·.index)]) s'
  | refused {deps : List (List Nat)} {s s' : Scheduler σ} {job : Job σ} {e : EnqueueError}
    (collected : Collected deps s)
    (issued : ∀ h ∈ job.dependencies, h.scheduler = s.id → h.index < s.size)
    (refused : s.enqueue job = (.error e, s')) : Collected deps s'

/-- A scheduler takes a job in, or refuses it and stays as it is. -/
theorem Unstarted.enqueue_cases (fresh : Unstarted deps s) (job : Job σ)
    (issued : ∀ h ∈ job.dependencies, h.scheduler = s.id → h.index < s.size) :
    (∃ h s', s.enqueue job = (.ok h, s') ∧
      Unstarted (deps ++ [job.dependencies.map (·.index)]) s') ∨
    s.enqueue job = (.error .foreignHandle, s) := by
  by_cases home : ∀ h ∈ job.dependencies, h.scheduler = s.id
  · obtain ⟨s', eq, _, _, _, fresh'⟩ := fresh.enqueue_ok job fun h mem =>
      ⟨home h mem, issued h mem (home h mem)⟩
    exact .inl ⟨_, s', eq, fresh'⟩
  · exact .inr (enqueue_foreign home)

theorem Collected.unstarted (collected : Collected deps s) : Unstarted deps s := by
  induction collected with
  | create id settings => exact .create id settings
  | taken _ issued taken ih =>
    rcases ih.enqueue_cases _ issued with ⟨h, s', eq, fresh⟩ | eq
    · rw [taken] at eq
      cases eq
      exact fresh
    · rw [taken] at eq
      cases eq
  | refused _ issued refused ih =>
    rcases ih.enqueue_cases _ issued with ⟨h, s', eq, _⟩ | eq
    · rw [refused] at eq
      cases eq
    · rw [refused] at eq
      cases eq
      exact ih

/-- Every scheduler that was filled by calls to `enqueue` has such dependencies. -/
theorem Filled.collected (filled : Filled s) : ∃ deps, Collected deps s := by
  induction filled with
  | create id settings => exact ⟨[], .create id settings⟩
  | enqueue _ job issued ih =>
    obtain ⟨deps, collected⟩ := ih
    rcases collected.unstarted.enqueue_cases job issued with ⟨h, s', eq, _⟩ | eq
    · refine ⟨deps ++ [job.dependencies.map (·.index)], ?_⟩
      rw [eq]
      exact .taken collected issued eq
    · refine ⟨deps, ?_⟩
      rw [eq]
      exact collected

theorem Collected.filled (collected : Collected deps s) : Filled s := by
  induction collected with
  | create id settings => exact .create id settings
  | @taken _ s s' job h _ issued taken ih =>
    have filled := ih.enqueue job issued
    rwa [taken] at filled
  | @refused _ s s' job e _ issued refused ih =>
    have filled := ih.enqueue job issued
    rwa [refused] at filled

/-- So the dependencies are only written down beside what calls to `enqueue` make anyway. -/
theorem filled_iff_collected : Filled s ↔ ∃ deps, Collected deps s :=
  ⟨Filled.collected, fun ⟨_, collected⟩ => collected.filled⟩

theorem enqueue_keeps (s : Scheduler σ) (job : Job σ) :
    (s.enqueue job).2.settings = s.settings ∧
      (s.enqueue job).2.books.limit = s.books.limit := by
  have kept := s.books.addJob_limit (job.dependencies.map (·.index))
  rw [enqueue]
  split
  · exact ⟨rfl, rfl⟩
  · split <;> rename_i added <;> rw [added] at kept <;> exact ⟨rfl, kept⟩

/-- The books of a scheduler are kept by its settings. -/
theorem Collected.settings (collected : Collected deps s) :
    s.books.continueOnError = s.settings.continueOnError ∧ s.books.limit = s.settings.limit := by
  induction collected with
  | create => exact ⟨rfl, rfl⟩
  | @taken _ s s' job h _ _ taken ih =>
    have mode := s.enqueue_continueOnError job
    obtain ⟨settings, limit⟩ := s.enqueue_keeps job
    rw [taken] at mode settings limit
    rw [mode, settings, limit]
    exact ih
  | @refused _ s s' job e _ _ refused ih =>
    have mode := s.enqueue_continueOnError job
    obtain ⟨settings, limit⟩ := s.enqueue_keeps job
    rw [refused] at mode settings limit
    rw [mode, settings, limit]
    exact ih

end Scheduler

namespace Machine

variable {σ : Type} {start m m' : Machine σ} {deps : List (List Nat)}

/-- It is the scheduler's turn. -/
def Loops (m : Machine σ) : Prop := m.busy = true ∨ (m.queue = [] ∧ m.hasNews = true)

theorem Loops.step (loops : m.Loops) : m.step = m.round := by
  rcases loops with busy | ⟨queue, news⟩
  · rw [Machine.step, if_pos busy]
  · rw [Machine.step, queue, news]
    exact ite_self _

theorem step_queue {job : Nat} {rest : List Nat} (resting : m.busy = false)
    (queue : m.queue = job :: rest) : m.step = .ok (poll { m with queue := rest } job) := by
  rw [step, if_neg (Bool.not_eq_true _ ▸ resting), queue]

theorem step_quiet (resting : m.busy = false) (queue : m.queue = []) (quiet : m.hasNews = false) :
    m.step = m.advanceClock := by
  rw [step, if_neg (Bool.not_eq_true _ ▸ resting), queue]
  exact if_neg (Bool.not_eq_true _ ▸ quiet)

/-- In its turn the scheduler has seen what there was to see and has started all that it may start:
it is about to record an end, to sample its state, to wait, or to stop. -/
def Serves (start m : Machine σ) : Prop :=
  ∃ m₀ m₁, Comes start m₀ ∧ m₀.Loops ∧ m₀.notice = .ok m₁ ∧ m₁.dispatchAll = .ok m

theorem Serves.quietly (serves : Serves start m) : ∃ m₀, Comes start m₀ ∧ Quietly m₀ m := by
  obtain ⟨m₀, m₁, comes, _, noticed, dispatched⟩ := serves
  obtain ⟨m₂, books, quietly, next, rfl⟩ := quietly_dispatchAll dispatched
  exact ⟨m₀, comes, (quietly_notice noticed).trans (quietly.trans (.single (.waited next)))⟩

theorem Serves.reaches (serves : Serves start m) : Reaches start m := by
  obtain ⟨m₀, comes, quietly⟩ := serves.quietly
  exact comes.reaches.trans quietly.reaches

/-- What the steps of a run keep holds in the scheduler's turns. -/
theorem Serves.keeps {P : Machine σ → Prop} (quiet : ∀ m m', P m → Quiet m m' → P m')
    (polled : ∀ m job rest body, Comes start m → m.busy = false → m.Polls job rest body →
      P m → P (m.ranOn job rest body)) (serves : Serves start m) (base : P start) : P m := by
  obtain ⟨m₀, comes, quietly⟩ := serves.quietly
  exact quietly.keeps quiet (comes.keeps quiet polled base)

theorem Serves.told (serves : Serves start m) (kept : Kept deps start)
    (told : Told start start []) : Kept deps m ∧ ∃ ends, Told start m ends := by
  refine serves.keeps (P := fun m => Kept deps m ∧ ∃ ends, Told start m ends) ?_ ?_ ⟨kept, [], told⟩
  · rintro m m' ⟨kept, ends, told⟩ quiet
    exact ⟨kept.quiet quiet, told.quiet kept quiet⟩
  · rintro m job rest body comes resting polls ⟨kept, ends, told⟩
    exact ⟨kept.polled polls, ends, told.polled comes resting polls⟩

theorem round_eq_serve {m₀ m₁ : Machine σ} (noticed : m₀.notice = .ok m₁)
    (dispatched : m₁.dispatchAll = .ok m) : m₀.round = m.serve := by
  rw [round, noticed]
  simp only [dispatched]

/-- A step of the scheduler tells what it makes of its turn. -/
theorem Serves.comes (serves : Serves start m) (served : m.serve = .ok m') : Comes start m' := by
  obtain ⟨m₀, m₁, comes, loops, noticed, dispatched⟩ := serves
  exact comes.tail (loops.step.trans ((round_eq_serve noticed dispatched).trans served))

/-! ## What a step tells -/

/-- The scheduler had no part in what led from the left machine to the right one. -/
structure Untold (m m' : Machine σ) : Prop where
  books : m'.books = m.books
  errors : m'.errors = m.errors
  timeline : m'.timeline = m.timeline
  seen : m'.seen = m.seen
  busy : m'.busy = m.busy
  /-- Tokens die with their bodies. -/
  alive : m'.conclusions = [] → m.conclusions = [] ∧ m'.tokens = m.tokens

namespace Untold

theorem refl (m : Machine σ) : Untold m m :=
  ⟨rfl, rfl, rfl, rfl, rfl, fun noTokens => ⟨noTokens, rfl⟩⟩

theorem trans {m₁ : Machine σ} (h : Untold m m₁) (h' : Untold m₁ m') : Untold m m' where
  books := h'.books.trans h.books
  errors := h'.errors.trans h.errors
  timeline := h'.timeline.trans h.timeline
  seen := h'.seen.trans h.seen
  busy := h'.busy.trans h.busy
  alive := fun noTokens => by
    obtain ⟨noTokens₁, tokens'⟩ := h'.alive noTokens
    obtain ⟨noTokens₀, tokens⟩ := h.alive noTokens₁
    exact ⟨noTokens₀, tokens'.trans tokens⟩

theorem wake (m : Machine σ) (job : Nat) : Untold m (m.wake job) := by
  unfold Machine.wake
  split <;> exact ⟨rfl, rfl, rfl, rfl, rfl, fun noTokens => ⟨noTokens, rfl⟩⟩

theorem wakeAll (jobs : List Nat) (m : Machine σ) : Untold m (jobs.foldl Machine.wake m) := by
  induction jobs generalizing m with
  | nil => exact refl m
  | cons job jobs ih => exact (wake m job).trans (ih _)

theorem poll (m : Machine σ) (job : Nat) : Untold m (m.poll job) := by
  unfold Machine.poll
  split
  · rename_i body slot
    obtain ⟨jobs, woken⟩ :=
      m.leave_eq_wakeAll job (body.advance (m.world job)).1 (body.advance (m.world job)).2
    show Untold m (m.leave job _ _)
    rw [woken]
    refine .trans ?_ (wakeAll jobs _)
    rw [left]
    cases (body.advance (m.world job)).1 with
    | ended c =>
      exact ⟨rfl, rfl, rfl, rfl, rfl, fun noTokens => by simp [conclude] at noTokens⟩
    | asleep | awaiting => exact ⟨rfl, rfl, rfl, rfl, rfl, fun noTokens => ⟨noTokens, rfl⟩⟩
  · exact refl m

/-- The job at the head of the queue has its turn. -/
theorem turn (m : Machine σ) (job : Nat) (rest : List Nat) :
    Untold m (Machine.poll { m with queue := rest } job) := by
  refine .trans ?_ (.poll { m with queue := rest } job)
  exact ⟨rfl, rfl, rfl, rfl, rfl, fun noTokens => ⟨noTokens, rfl⟩⟩

theorem advanceClock (h : m.advanceClock = .ok m') : Untold m m' := by
  have reached {time : Nat} (h : m.reach time = .ok m') : Untold m m' := by
    unfold reach at h
    simp only at h
    split at h
    · cases h
    · split at h
      · cases h
        refine .trans ?_ (wakeAll _ _)
        exact ⟨rfl, rfl, rfl, rfl, rfl, fun noTokens => ⟨noTokens, rfl⟩⟩
      · split at h <;> cases h
        refine .trans ?_ (wake _ _)
        exact ⟨rfl, rfl, rfl, rfl, rfl, fun noTokens => ⟨noTokens, rfl⟩⟩
  unfold Machine.advanceClock at h
  split at h
  · cases h
  · split at h
    · split at h
      · cases h
        exact ⟨rfl, rfl, rfl, rfl, rfl, fun noTokens => ⟨noTokens, rfl⟩⟩
      · exact reached h
    · exact reached h

end Untold

theorem notice_timeline (h : m.notice = .ok m') : m'.timeline = m.timeline := by
  unfold notice at h
  split at h
  · split at h <;> cases h
    rfl
  · cases h
    rfl

theorem dispatchAll_error {f : Fault} (next : m.books.nextDispatch = .error f) :
    m.dispatchAll = .error f := by
  rw [dispatchAll]
  split <;> rename_i other <;> rw [next] at other <;> cases other
  rfl

theorem dispatchAll_none {books : Books} (next : m.books.nextDispatch = .ok (none, books)) :
    m.dispatchAll = .ok { m with books } := by
  rw [dispatchAll]
  split <;> rename_i other <;> rw [next] at other <;> cases other
  rfl

theorem dispatchAll_fresh {books : Books} {job : Nat} {body : JobBody σ}
    (next : m.books.nextDispatch = .ok (some job, books))
    (fresh : m.slots[job]? = some (.fresh body)) :
    m.dispatchAll = dispatchAll { m with
      books
      slots := m.slots.set job (.queued body)
      queue := m.queue ++ [job]
      tokens := m.tokens ++ [job]
      timeline := m.timeline ++ [.started job] } := by
  rw [dispatchAll]
  split <;> rename_i other <;> rw [next] at other <;> cases other
  rw [fresh]

theorem dispatchAll_forgone {books : Books} {job : Nat}
    (next : m.books.nextDispatch = .ok (some job, books))
    (gone : ∀ body, m.slots[job]? ≠ some (.fresh body)) :
    m.dispatchAll = match books.complete job .failed with
      | .error f => .error f
      | .ok books => dispatchAll { m with books } := by
  rw [dispatchAll]
  split <;> rename_i other <;> rw [next] at other <;> cases other
  split
  · exact absurd ‹_› (gone _)
  · split <;> rename_i failed <;> rw [failed]

theorem dispatchAll_timeline (h : m.dispatchAll = .ok m') :
    ∃ jobs : List Nat, m'.timeline = m.timeline ++ jobs.map .started := by
  fun_induction dispatchAll m with
  | case1 | case4 => cases h
  | case2 m books next =>
    cases h
    exact ⟨[], (List.append_nil _).symm⟩
  | case3 m job books next body slot ih =>
    obtain ⟨jobs, eq⟩ := ih h
    exact ⟨job :: jobs, by rw [eq, List.append_assoc]; rfl⟩
  | case5 m job books next books₁ failed gone ih => exact ih h

theorem dispatchAll_seen (h : m.dispatchAll = .ok m') :
    m'.seen = m.seen ∧ m'.cancelled = m.cancelled := by
  fun_induction dispatchAll m with
  | case1 | case4 => cases h
  | case2 m books next =>
    cases h
    exact ⟨rfl, rfl⟩
  | case3 | case5 => rename_i ih; exact ih h

theorem round_ok (h : m.round = .ok m') :
    ∃ m₁ m₂, m.notice = .ok m₁ ∧ m₁.dispatchAll = .ok m₂ ∧ m₂.serve = .ok m' := by
  unfold round at h
  split at h
  · cases h
  · rename_i m₁ noticed
    split at h
    · cases h
    · rename_i m₂ dispatched
      exact ⟨m₁, m₂, noticed, dispatched, h⟩

/-- A step is the scheduler's, or the scheduler has no part in it. -/
theorem step_untold (h : m.step = .ok m') : Untold m m' ∨
    m.Loops ∧ ∃ m₁ m₂, m.notice = .ok m₁ ∧ m₁.dispatchAll = .ok m₂ ∧ m₂.serve = .ok m' := by
  unfold step at h
  split at h
  · rename_i busy
    exact .inr ⟨.inl busy, round_ok h⟩
  · split at h
    · rename_i job rest queue
      cases h
      exact .inl (.turn m job rest)
    · rename_i queue
      split at h
      · rename_i news
        exact .inr ⟨.inr ⟨queue, news⟩, round_ok h⟩
      · exact .inl (.advanceClock h)

theorem serve_finished (finished : m.books.isFinished = true) :
    m.serve = .error (.finished m) := by
  rw [serve, if_pos finished]

/-- The scheduler records an end, or tells nothing. -/
theorem serve_timeline (h : m.serve = .ok m') : m'.timeline = m.timeline ∨
    m.books.isFinished = false ∧ ∃ job c rest books, m.conclusions = (job, c) :: rest ∧
      m.books.complete job c.outcome = .ok books ∧
      m' = { m with
        conclusions := rest
        busy := true
        books
        errors := m.errors ++ c.error?.toList
        timeline := m.timeline ++ [.recorded job c.outcome] } := by
  unfold serve at h
  split at h
  · cases h
  · rename_i unfinished
    split at h
    · rename_i job c rest waiting
      split at h
      · cases h
      · rename_i m₁ recorded
        unfold record at recorded
        split at recorded
        · cases recorded
        · rename_i books complete
          cases recorded
          cases h
          exact .inr ⟨by simpa using unfinished, job, c, rest, books, waiting, complete, rfl⟩
    · split at h
      · cases h
      · split at h
        · cases h
          left
          unfold sample
          split <;> rfl
        · split at h <;> cases h
          exact .inl rfl

/-! ## The moment of an end -/

/-- The scheduler is about to record that this job ended, and goes on to `next`. -/
structure Notes (start m : Machine σ) (job : Nat) (c : Conclusion) (next : Machine σ) : Prop where
  serves : Serves start m
  unfinished : m.books.isFinished = false
  first : ∃ rest, m.conclusions = (job, c) :: rest
  served : m.serve = .ok next

theorem split_started {l before after : List Moment} {jobs : List Nat} {j : Nat} {o : Outcome}
    (split : l ++ jobs.map .started = before ++ .recorded j o :: after) :
    ∃ after', l = before ++ .recorded j o :: after' := by
  induction jobs generalizing l with
  | nil => exact ⟨after, by simpa using split⟩
  | cons job jobs ih =>
    rw [List.map_cons, List.append_cons] at split
    obtain ⟨after', eq⟩ := ih split
    rcases split_concat eq with found | ⟨_, no⟩
    · exact found
    · cases no

/-- Every end in the timeline was recorded by the scheduler in its turn. -/
theorem Comes.recorded_at (comes : Comes start m) (untold : start.timeline = [])
    {before after : List Moment} {j : Nat} {o : Outcome}
    (split : m.timeline = before ++ .recorded j o :: after) :
    ∃ m₀ c next, Notes start m₀ j c next ∧ m₀.timeline = before ∧ c.outcome = o ∧
      Comes next m := by
  induction comes generalizing after with
  | refl =>
    rw [untold] at split
    cases before <;> cases split
  | @tail m₁ m₂ comes step ih =>
    have earlier {after' : List Moment} (split : m₁.timeline = before ++ .recorded j o :: after') :
        ∃ m₀ c next, Notes start m₀ j c next ∧ m₀.timeline = before ∧ c.outcome = o ∧
          Comes next m₂ := by
      obtain ⟨m₀, c, next, notes, told, outcome, later⟩ := ih split
      exact ⟨m₀, c, next, notes, told, outcome, later.tail step⟩
    rcases step_untold step with untold | ⟨loops, mn, ms, noticed, dispatched, served⟩
    · exact earlier (untold.timeline ▸ split)
    · obtain ⟨jobs, told⟩ := dispatchAll_timeline dispatched
      rw [notice_timeline noticed] at told
      rcases serve_timeline served with same | ⟨unfinished, job, c, rest, books, first, _, eq⟩
      · rw [same, told] at split
        obtain ⟨_, split⟩ := split_started split
        exact earlier split
      · rw [eq] at split
        rcases split_concat split with ⟨_, old⟩ | ⟨same, new⟩
        · rw [told] at old
          obtain ⟨_, split⟩ := split_started old
          exact earlier split
        · cases new
          exact ⟨ms, c, m₂, ⟨⟨m₁, mn, comes, loops, noticed, dispatched⟩, unfinished, ⟨rest, first⟩,
            served⟩, same, rfl, .refl⟩

/-- The same for the timeline of a scheduler that has started all it can. -/
theorem Serves.recorded_at (serves : Serves start m) (untold : start.timeline = [])
    {before after : List Moment} {j : Nat} {o : Outcome}
    (split : m.timeline = before ++ .recorded j o :: after) :
    ∃ m₀ c next, Notes start m₀ j c next ∧ m₀.timeline = before ∧ c.outcome = o ∧
      Reaches next m := by
  obtain ⟨m₁, m₂, comes, _, noticed, dispatched⟩ := serves
  obtain ⟨jobs, told⟩ := dispatchAll_timeline dispatched
  rw [told, notice_timeline noticed] at split
  obtain ⟨_, split⟩ := split_started split
  obtain ⟨m₀, c, next, notes, before, outcome, later⟩ := comes.recorded_at untold split
  obtain ⟨m₃, books, quietly, shut, rfl⟩ := quietly_dispatchAll dispatched
  exact ⟨m₀, c, next, notes, before, outcome, later.reaches.trans ((quietly_notice noticed).trans
    (quietly.trans (.single (.waited shut)))).reaches⟩

/-- A run finishes in the scheduler's turn. -/
theorem Kept.finished_serves (kept : Kept deps start) {last : Machine σ}
    (run : start.run = .finished last) :
    Serves start last ∧ last.books.isFinished = true := by
  obtain ⟨m, comes, stops⟩ := run_comes run
  have turn (loops : m.Loops) (round : m.round = .error (.finished last)) :
      Serves start last ∧ last.books.isFinished = true := by
    obtain ⟨m₁, m₂, noticed, dispatched, kept₂, waits⟩ := (kept.reaches comes.reaches).never_stuck
    rw [round_eq_serve noticed dispatched] at round
    rcases kept₂.serve_error waits round with ⟨same, finished⟩ | ⟨no, _⟩
    · cases same
      exact ⟨⟨m, m₁, comes, loops, noticed, dispatched⟩, finished⟩
    · cases no
  unfold step at stops
  split at stops
  · rename_i busy
    exact turn (.inl busy) stops
  · split at stops
    · cases stops
    · rename_i queue
      split at stops
      · rename_i news
        exact turn (.inr ⟨queue, news⟩) stops
      · obtain ⟨m₁, no | no⟩ := advanceClock_error stops <;> cases no

/-! ## Step by step -/

theorem run_ok (step : m.step = .ok m') : m.run = m'.run := by
  rw [run]
  split <;> rename_i other <;> rw [step] at other <;> cases other
  rfl

theorem run_error {stop : Stop σ} (step : m.step = .error stop) : m.run = stop := by
  rw [run]
  split <;> rename_i other <;> rw [step] at other <;> cases other
  rfl

/-- How a run stops that takes no more than this many steps. -/
def within : Nat → Machine σ → Option (Stop σ)
  | 0, _ => none
  | n + 1, m =>
    match m.step with
    | .ok m => m.within n
    | .error stop => some stop

theorem run_of_within {n : Nat} {stop : Stop σ} (h : m.within n = some stop) : m.run = stop := by
  induction n generalizing m with
  | zero => cases h
  | succ n ih =>
    rw [within] at h
    cases step : m.step with
    | ok m' =>
      rw [step] at h
      rw [run_ok step]
      exact ih h
    | error stop' =>
      rw [step] at h
      rw [run_error step]
      exact Option.some.inj h

end Machine

/-- The machine of a run that finished. -/
def Stop.last? {σ : Type} : Stop σ → Option (Machine σ)
  | .finished m => some m
  | _ => none

/-- A run that was seen to finish within some steps has finished as it was seen. -/
theorem Machine.run_finished_of_within {σ α : Type} {m : Machine σ} {n : Nat} {f : Machine σ → α}
    {a : α} (h : ((m.within n).bind Stop.last?).map f = some a) :
    ∃ last, m.run = .finished last ∧ f last = a := by
  obtain ⟨last, found, same⟩ := Option.map_eq_some_iff.mp h
  obtain ⟨stop, stops, finished⟩ := Option.bind_eq_some_iff.mp found
  cases stop with
  | finished m =>
    cases finished
    exact ⟨last, Machine.run_of_within stops, same⟩
  | timedOut | stalled | fault => cases finished

end KeyFlow
