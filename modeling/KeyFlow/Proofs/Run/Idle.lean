import KeyFlow.Proofs.Jobs.Calls
import KeyFlow.Proofs.Jobs.Idle
import KeyFlow.Proofs.Run.Kept
import KeyFlow.Run.Scheduler

/-!
No run gets stuck. Jobs are enqueued behind earlier ones, so the run starts from sound books, and
its invariant leaves the scheduler something to wait for until the books are finished.
-/

namespace KeyFlow

namespace Scheduler

variable {σ : Type} {s : Scheduler σ}

/-- Schedulers as they come out of a series of calls to `enqueue`, refused ones included. A handle
of the scheduler itself stands for one of its jobs. -/
inductive Filled : Scheduler σ → Prop where
  | create (id : Nat) (settings : RunSettings) : Filled (Scheduler.create id settings)
  | enqueue {s : Scheduler σ} (filled : Filled s) (job : Job σ)
    (issued : ∀ h ∈ job.dependencies, h.scheduler = s.id → h.index < s.size) :
    Filled (s.enqueue job).2

/-- The books of a scheduler that did not run yet. -/
structure Unstarted (deps : List (List Nat)) (s : Scheduler σ) : Prop where
  sound : Books.Sound deps s.books
  length : s.bodies.length = s.books.jobs.length
  pending : ∀ i state, s.books.stateOf i = some state → state = .pending
  halted : s.books.halted = none

theorem Unstarted.create (id : Nat) (settings : RunSettings) :
    Unstarted [] (Scheduler.create id settings : Scheduler σ) where
  sound := .create settings.limit settings.continueOnError
  length := rfl
  pending := nofun
  halted := rfl

theorem Unstarted.added {deps : List (List Nat)} (fresh : Unstarted deps s) {ds : List Nat}
    {e : Entry} {books : Books} (added : Books.Added ds e s.books books) (body : JobBody σ)
    (names : List (Option String)) :
    Unstarted (deps ++ [ds]) { s with books, bodies := s.bodies ++ [body], names } where
  sound := fresh.sound.add added
  length := by
    show (s.bodies ++ [body]).length = books.jobs.length
    rw [List.length_append, fresh.length, added.length]
    rfl
  pending := by
    intro i state found
    have bound := Books.lt_of_stateOf found
    rw [show ({ s with books, bodies := s.bodies ++ [body], names } : Scheduler σ).books = books
      from rfl, added.length] at bound
    by_cases last : i = s.books.jobs.length
    · subst last
      rw [added.stateOf_new, Option.some.injEq] at found
      rcases added.state_cases with ⟨_, pending⟩ | ⟨cause, closed, _⟩
      · exact found ▸ pending
      · rw [fresh.halted] at closed
        cases closed
    · rw [added.stateOf_old (by omega)] at found
      exact fresh.pending i state found
  halted := added.halted.trans fresh.halted

/-- A job that names a handle of another scheduler is refused before anything is written down. -/
theorem enqueue_foreign {job : Job σ} (foreign : ¬ ∀ h ∈ job.dependencies, h.scheduler = s.id) :
    s.enqueue job = (.error .foreignHandle, s) := by
  rw [not_forall₂] at foreign
  obtain ⟨h, mem, ne⟩ := foreign
  rw [enqueue, if_pos (List.any_eq_true.mpr ⟨h, mem, by simpa using ne⟩)]

/-- A job behind jobs of the scheduler itself is taken in. -/
theorem Unstarted.enqueue_ok {deps : List (List Nat)} (fresh : Unstarted deps s) (job : Job σ)
    (own : ∀ h ∈ job.dependencies, h.scheduler = s.id ∧ h.index < s.size) :
    ∃ s', s.enqueue job = (.ok ⟨s.id, s.size⟩, s') ∧ s'.id = s.id ∧ s'.size = s.size + 1 ∧
      s'.bodies = s.bodies ++ [job.body] ∧
      Unstarted (deps ++ [job.dependencies.map (·.index)]) s' := by
  have known : ∀ d ∈ job.dependencies.map (·.index), d < s.books.jobs.length := by
    intro d mem
    obtain ⟨h, dependency, rfl⟩ := List.mem_map.mp mem
    exact (own h dependency).2
  have home : ¬ job.dependencies.any (·.scheduler != s.id) = true := by
    intro foreign
    obtain ⟨h, dependency, ne⟩ := List.any_eq_true.mp foreign
    simp [(own h dependency).1] at ne
  obtain ⟨e, books, eq, added⟩ := Books.addJob_ok known
  refine ⟨{ s with books, bodies := s.bodies ++ [job.body], names := s.names ++ [job.name] },
    ?_, rfl, added.length, rfl, fresh.added added job.body _⟩
  rw [enqueue, if_neg home, eq]
  rfl

theorem enqueue_continueOnError (s : Scheduler σ) (job : Job σ) :
    (s.enqueue job).2.books.continueOnError = s.books.continueOnError := by
  have kept := s.books.addJob_continueOnError (job.dependencies.map (·.index))
  rw [enqueue]
  split
  · rfl
  · split <;> rename_i added <;> rw [added] at kept <;> exact kept

/-- These jobs were taken in, each behind those that it depends on. -/
structure TakesIn (deps : List (List Nat)) (s : Scheduler σ) (jobs : List (Job σ))
    (s' : Scheduler σ) : Prop where
  id : s'.id = s.id
  size : s'.size = s.size + jobs.length
  bodies : s'.bodies = s.bodies ++ jobs.map (·.body)
  unstarted : Unstarted (deps ++ jobs.map fun job => job.dependencies.map (·.index)) s'
  goesOn : s'.books.continueOnError = s.books.continueOnError

theorem TakesIn.nothing {deps : List (List Nat)} (fresh : Unstarted deps s) :
    TakesIn deps s [] s where
  id := rfl
  size := rfl
  bodies := (List.append_nil _).symm
  unstarted := (List.append_nil deps).symm ▸ fresh
  goesOn := rfl

theorem TakesIn.trans {deps : List (List Nat)} {jobs jobs' : List (Job σ)} {s' s'' : Scheduler σ}
    (h : TakesIn deps s jobs s')
    (h' : TakesIn (deps ++ jobs.map fun job => job.dependencies.map (·.index)) s' jobs' s'') :
    TakesIn deps s (jobs ++ jobs') s'' where
  id := h'.id.trans h.id
  size := by rw [h'.size, h.size, List.length_append, Nat.add_assoc]
  bodies := by rw [h'.bodies, h.bodies, List.map_append, List.append_assoc]
  unstarted := by
    rw [List.map_append, ← List.append_assoc]
    exact h'.unstarted
  goesOn := h'.goesOn.trans h.goesOn

/-- Jobs behind jobs of the scheduler itself are taken in, and numbered one after another. -/
theorem Unstarted.enqueueAll_ok {deps : List (List Nat)} (fresh : Unstarted deps s)
    (jobs : List (Job σ))
    (own : ∀ job ∈ jobs, ∀ h ∈ job.dependencies, h.scheduler = s.id ∧ h.index < s.size) :
    ∃ s', s.enqueueAll jobs = .ok ((List.range' s.size jobs.length).map (⟨s.id, ·⟩), s') ∧
      TakesIn deps s jobs s' := by
  induction jobs generalizing s deps with
  | nil => exact ⟨s, rfl, .nothing fresh⟩
  | cons job jobs ih =>
    obtain ⟨ownJob, ownJobs⟩ := List.forall_mem_cons.mp own
    obtain ⟨s₁, eq, id, size, bodies, fresh₁⟩ := fresh.enqueue_ok job ownJob
    have goesOn := s.enqueue_continueOnError job
    rw [eq] at goesOn
    have first : TakesIn deps s [job] s₁ := ⟨id, size, bodies, fresh₁, goesOn⟩
    obtain ⟨s', rest, taken⟩ := ih fresh₁ fun job mem h dependency => by
      obtain ⟨home, earlier⟩ := ownJobs job mem h dependency
      exact ⟨home.trans id.symm, by omega⟩
    refine ⟨s', ?_, first.trans taken⟩
    rw [enqueueAll]
    simp only [eq, rest, id, size]
    rfl

theorem Filled.unstarted (filled : Filled s) : ∃ deps, Unstarted deps s := by
  induction filled with
  | create id settings => exact ⟨[], .create id settings⟩
  | @enqueue s _ job issued ih =>
    obtain ⟨deps, fresh⟩ := ih
    by_cases home : ∀ h ∈ job.dependencies, h.scheduler = s.id
    · obtain ⟨s', eq, _, _, _, fresh'⟩ := fresh.enqueue_ok job fun h mem =>
        ⟨home h mem, issued h mem (home h mem)⟩
      rw [eq]
      exact ⟨_, fresh'⟩
    · rw [enqueue_foreign home]
      exact ⟨deps, fresh⟩

/-- The run starts with its invariant. -/
theorem Unstarted.kept {deps : List (List Nat)} (fresh : Unstarted deps s) (c : Conditions σ)
    (shared : σ) : Machine.Kept deps (s.start c shared) := by
  have slot (i : Nat) : (s.start c shared).slots[i]? = s.bodies[i]?.map .fresh :=
    List.getElem?_map ..
  have live (i : Nat) : (s.start c shared).isLive i = false := by
    rw [Machine.isLive, slot]
    cases s.bodies[i]? <;> rfl
  constructor
  case sound => exact fresh.sound
  case length => exact (List.length_map ..).trans fresh.length
  case fresh =>
    intro i pending
    have inRange : i < s.bodies.length := fresh.length ▸ Books.lt_of_stateOf pending
    exact ⟨s.bodies[i], by rw [slot, List.getElem?_eq_getElem inRange]; rfl⟩
  case tokens =>
    intro i
    rw [live]
    constructor
    · intro token
      cases token
    · intro no
      cases no
  case nodup => exact List.nodup_nil
  case queue =>
    intro i body queued
    rw [slot] at queued
    cases h : s.bodies[i]? <;> rw [h] at queued <;> cases queued
  case spent =>
    intro i ended
    cases ended
  case once => exact List.nodup_nil
  case running =>
    intro i
    rw [live]
    constructor
    · intro running
      cases fresh.pending i _ running
    · rintro (no | no) <;> cases no
  case awake =>
    intro resting
    cases resting

end Scheduler

namespace Machine

/-- The scheduler that started all it can has something to wait for, or is finished. -/
theorem Kept.never_stuck {σ : Type} {deps : List (List Nat)} {m : Machine σ} (kept : Kept deps m) :
    ∃ m₁ m₂, m.notice = .ok m₁ ∧ m₁.dispatchAll = .ok m₂ ∧ Kept deps m₂ ∧
      (m₂.books.isFinished = true ∨ m₂.conclusions ≠ [] ∨ m₂.tokens ≠ []) := by
  obtain ⟨m₁, noticed, kept₁⟩ := kept.notice_ok
  obtain ⟨m₂, dispatched⟩ := kept₁.dispatchAll_ok
  obtain ⟨m₃, books, reached, next, rfl⟩ := quietly_dispatchAll dispatched
  have kept₃ := kept₁.reaches reached.reaches
  have kept₂ := kept₃.waited next
  refine ⟨m₁, _, noticed, dispatched, kept₂, ?_⟩
  by_contra stuck
  rw [not_or, not_or, not_not, not_not] at stuck
  obtain ⟨unfinished, conclusions, tokens⟩ := stuck
  exact unfinished (Books.finished_of_idle kept₃.sound next (kept₂.idle tokens conclusions)).2

end Machine

/-- Books that were used by any calls of which none was refused, and that have no next job while
nothing runs, are finished, with every job at an end. So in a run of jobs, whatever they do, when
they end, and however the run is cancelled, the scheduler never comes to give up. -/
theorem no_run_is_stuck :
    (∀ (limit : Limit) (continueOnError : Bool) (calls : List Books.Call) (b b' : Books),
      (∀ entry ∈ ((Books.create limit continueOnError).play calls).1,
        entry.2.isRefused = false) →
      ((Books.create limit continueOnError).play calls).2 = .ok b →
      b.nextDispatch = .ok (none, b') → b'.running = 0 →
      (∀ s ∈ b'.states, s.isTerminal = true) ∧ b'.isFinished = true) ∧
    ∀ {σ : Type} (s : Scheduler σ) (c : Conditions σ) (shared : σ) (m : Machine σ),
      s.Filled → Machine.Comes (s.start c shared) m →
      ∃ m₁ m₂, m.notice = .ok m₁ ∧ m₁.dispatchAll = .ok m₂ ∧
        (m₂.books.isFinished = true ∨ m₂.conclusions ≠ [] ∨ m₂.tokens ≠ []) := by
  constructor
  · intro limit continueOnError calls b b' accepted result next idle
    obtain ⟨deps, b₁, eq, logged⟩ :=
      (Books.Logged.create limit continueOnError).play calls accepted
    rw [result] at eq
    cases eq
    exact Books.finished_of_idle logged.sound next idle
  · intro σ s c shared m filled comes
    obtain ⟨deps, fresh⟩ := filled.unstarted
    obtain ⟨m₁, m₂, noticed, dispatched, _, waits⟩ :=
      ((fresh.kept c shared).reaches comes.reaches).never_stuck
    exact ⟨m₁, m₂, noticed, dispatched, waits⟩

/-- A job behind one that failed, in books that go on; and a run of one job. -/
theorem no_run_is_stuck_behind_failure :
    (∃ b b', ((Books.create none true).play
        [.add [], .add [0], .next, .complete 0 .failed]).2 = .ok b ∧
      b.nextDispatch = .ok (none, b') ∧ b'.isFinished = true) ∧
    ∃ m₁ m₂ : Machine Unit,
      (((Scheduler.create 0 {}).enqueue { body := .done (.returned .done) }).2.start {} ()).notice =
        .ok m₁ ∧ m₁.dispatchAll = .ok m₂ ∧
      (m₂.books.isFinished = true ∨ m₂.conclusions ≠ [] ∨ m₂.tokens ≠ []) := by
  constructor
  · have idle : (((Books.create none true).play
        [.add [], .add [0], .next, .complete 0 .failed]).2.bind (·.nextDispatch)).map
          (fun next => (next.1, next.2.running)) = .ok (none, 0) := by
      decide +kernel
    cases result : ((Books.create none true).play
        [.add [], .add [0], .next, .complete 0 .failed]).2 with
    | error f =>
      rw [result] at idle
      cases idle
    | ok b =>
      rw [result, Except.bind] at idle
      cases next : b.nextDispatch with
      | error f =>
        rw [next] at idle
        cases idle
      | ok answer =>
        obtain ⟨job, b'⟩ := answer
        rw [next, Except.map, Except.ok.injEq, Prod.mk.injEq] at idle
        obtain ⟨rfl, noNext⟩ := idle
        refine ⟨b, b', rfl, next, ?_⟩
        exact (no_run_is_stuck.1 none true [.add [], .add [0], .next, .complete 0 .failed] b b'
          (by decide +kernel) result next noNext).2
  · exact no_run_is_stuck.2 _ {} () _ (.enqueue (.create 0 {}) _ (by simp))
      Relation.ReflTransGen.refl

end KeyFlow
