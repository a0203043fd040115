import KeyFlow.Proofs.Run.Alike

/-!
Runs whose states are sampled. A sample that falls due wakes the scheduler where it has nothing to
do: it finds nothing new, takes the sample and waits again. So a run with samples takes the steps of
the run without them, and such turns in between.
-/

namespace KeyFlow

variable {σ : Type} {R : σ → σ → Prop}

/-- Samples at the same times, which keep related states related. -/
inductive Sampling.Alike (R : σ → σ → Prop) : Option (Sampling σ) → Option (Sampling σ) → Prop
  | none : Alike R none none
  | some {s : Sampling σ} {observe : Nat → Snapshot → σ → σ}
    (keeps : ∀ clock snapshot a b, R a b →
      R (s.observe clock snapshot a) (observe clock snapshot b)) :
    Alike R (some s) (some { s with observe })

/-- Samples which leave a state related to what it is related to. -/
def Sampling.Aside (R : σ → σ → Prop) (s : Sampling σ) : Prop :=
  ∀ clock snapshot a b, R a b → R a (s.observe clock snapshot b)

/-- Samples of the right run only, of which the left one does not come to know. -/
def Sampling.Extra (R : σ → σ → Prop) (left right : Option (Sampling σ)) : Prop :=
  left = none ∧ ∃ s, right = some s ∧ s.Aside R

namespace Machine

variable {m n : Machine σ}

theorem sample_of_none (off : m.sampling = none) : m.sample = m := by
  rw [sample, off]

theorem sample_of_some {s : Sampling σ} (on : m.sampling = some s) :
    m.sample = { m with
      shared := s.observe m.clock m.books.snapshot m.shared
      sampling := some { s with due := m.clock + s.period } } := by
  rw [sample, on]

/-! ## Samples at the same times -/

theorem Alike.isTickDue (alike : Alike R (Sampling.Alike R) m n) : n.isTickDue = m.isTickDue := by
  cases alike with
  | mk _ _ samples =>
    unfold Machine.isTickDue
    simp only
    generalize m.sampling = sampling at samples ⊢
    cases samples <;> rfl

theorem Alike.sample (alike : Alike R (Sampling.Alike R) m n) :
    Alike R (Sampling.Alike R) m.sample n.sample := by
  cases alike with
  | @mk slots shared sampling bodies related samples =>
    cases on : m.sampling with
    | none =>
      rw [sample_of_none on]
      rw [on] at samples
      cases samples
      rw [sample_of_none rfl]
      refine .mk bodies related ?_
      rw [on]
      exact .none
    | some s =>
      rw [sample_of_some on]
      rw [on] at samples
      cases samples with
      | some keeps =>
        rw [sample_of_some rfl]
        exact .mk bodies (keeps _ _ _ _ related) (.some keeps)

theorem Alike.round (alike : Alike R (Sampling.Alike R) m n) :
    Except.Both (Stop.Alike R) (Alike R (Sampling.Alike R)) m.round n.round := by
  rcases alike.round_cases with ⟨f, failed, failed'⟩ | ⟨_, m₂, n₂, _, _, served, served', alike₂⟩
  · rw [failed, failed']
    exact .error (.fault f)
  · rw [served, served']
    rcases alike₂.serve_cases with both | ⟨free, free'⟩
    · exact both
    · cases due : m₂.isTickDue with
      | true =>
        rw [free.serve_due due, free'.serve_due (alike₂.isTickDue ▸ due)]
        exact .ok (alike₂.sample.withBusy true)
      | false =>
        have early := alike₂.isTickDue ▸ due
        cases late : m₂.isOverdue with
        | true =>
          rw [free.serve_late due late, free'.serve_late early (alike₂.isOverdue ▸ late)]
          exact .error (.timedOut alike₂.endAlike)
        | false =>
          rw [free.serve_waits due late, free'.serve_waits early (alike₂.isOverdue ▸ late)]
          exact .ok (alike₂.withBusy false)

theorem Alike.advanceClock (alike : Alike R (Sampling.Alike R) m n) :
    Except.Both (Stop.Alike R) (Alike R (Sampling.Alike R)) m.advanceClock n.advanceClock := by
  unfold Machine.advanceClock
  rw [alike.horizon]
  cases m.horizon with
  | none => exact .error (.stalled alike.endAlike)
  | some time =>
    have reached := alike.reach time
    have passed := alike.passed
    cases alike with
    | mk _ _ samples =>
      simp only
      generalize m.sampling = sampling at samples reached passed ⊢
      cases samples with
      | none => exact reached
      | some keeps =>
        simp only
        split
        · exact .ok (passed _)
        · exact reached

theorem Alike.step (alike : Alike R (Sampling.Alike R) m n) :
    Except.Both (Stop.Alike R) (Alike R (Sampling.Alike R)) m.step n.step := by
  have news : n.hasNews = m.hasNews := by
    have due := alike.isTickDue
    cases alike
    unfold Machine.hasNews
    rw [due]
  have rounds := alike.round
  have advances := alike.advanceClock
  have polled (rest : List Nat) := (alike.withQueue rest).poll
  cases alike with
  | mk bodies related samples =>
    unfold Machine.step
    rw [news]
    simp only
    split
    · exact rounds
    · split
      · exact .ok (polled _ _)
      · split
        · exact rounds
        · exact advances

/-- If each step of the right run is a step of both, or leaves it related to the left one as that
stands, then both stop alike. -/
theorem run_simulated {T : Machine σ → Machine σ → Prop}
    (simulated : ∀ m n, T m n → (∃ n', n.step = .ok n' ∧ T m n') ∨
      Except.Both (Stop.Alike R) T m.step n.step) (related : T m n) :
    Stop.Alike R m.run n.run := by
  fun_induction Machine.run n generalizing m with
  | case1 n n' step ih =>
    rcases simulated m n related with ⟨n₁, goes', related'⟩ | both
    · rw [step] at goes'
      cases goes'
      exact ih related'
    · rw [step] at both
      rcases both.cases with ⟨_, _, _, stops', _⟩ | ⟨m', n₁, goes, goes', related'⟩
      · cases stops'
      · cases goes'
        rw [run_ok goes]
        exact ih related'
  | case2 n stop step =>
    rcases simulated m n related with ⟨n₁, goes', _⟩ | both
    · rw [step] at goes'
      cases goes'
    · rw [step] at both
      rcases both.cases with ⟨stop', _, stops, stops', alike⟩ | ⟨_, _, _, goes', _⟩
      · cases stops'
        rw [run_error stops]
        exact alike
      · cases goes'

theorem Alike.run (alike : Alike R (Sampling.Alike R) m n) : Stop.Alike R m.run n.run :=
  run_simulated (fun _ _ related => .inr related.step) alike

/-! ## Samples in between -/

/-- The scheduler waits: all that may start has started, and some job has not ended. -/
structure Waits (m : Machine σ) : Prop where
  resting : m.busy = false
  idle : m.books.nextDispatch = .ok (none, m.books)
  unfinished : m.books.isFinished = false
  alive : m.conclusions = [] → m.tokens.isEmpty = false

/-- What the scheduler has no part in does not keep it from waiting. -/
theorem Waits.untold (waits : m.Waits) (untold : Untold m n) : n.Waits where
  resting := untold.busy.trans waits.resting
  idle := by
    rw [untold.books]
    exact waits.idle
  unfinished := by
    rw [untold.books]
    exact waits.unfinished
  alive := fun noTokens => by
    obtain ⟨before, tokens⟩ := untold.alive noTokens
    rw [tokens]
    exact waits.alive before

/-- The scheduler waits and nothing waits for it. -/
structure Still (m : Machine σ) : Prop extends Waits m where
  conclusions : m.conclusions = []
  seen : (m.cancelled && !m.seen) = false

theorem dispatchAll_idle {m' : Machine σ} (dispatched : m.dispatchAll = .ok m') :
    m'.books.nextDispatch = .ok (none, m'.books) := by
  obtain ⟨m₁, books, _, next, rfl⟩ := quietly_dispatchAll dispatched
  exact Books.nextDispatch_again next

theorem notice_seen {m' : Machine σ} (noticed : m.notice = .ok m') :
    (m'.cancelled && !m'.seen) = false := by
  unfold notice at noticed
  split at noticed
  · split at noticed <;> cases noticed
    exact Bool.and_false _
  · rename_i known
    cases noticed
    exact Bool.not_eq_true _ ▸ known

/-- A scheduler that does not go on has come to wait. -/
theorem serve_ok {m' : Machine σ} (served : m.serve = .ok m') (resting : m'.busy = false) :
    m.HasTime ∧ m' = { m with busy := false } := by
  unfold serve at served
  split at served
  · cases served
  · rename_i unfinished
    split at served
    · split at served
      · cases served
      · rename_i recorded
        unfold record at recorded
        split at recorded <;> cases recorded
        cases served
        cases resting
    · rename_i noConclusions
      split at served
      · cases served
      · rename_i alive
        split at served
        · cases served
          cases resting
        · split at served <;> cases served
          exact ⟨⟨by simpa using unfinished, noConclusions, by simpa using alive⟩, rfl⟩

/-- A turn of the scheduler that is over leaves it waiting, and nothing waits for it. -/
theorem round_still {m' : Machine σ} (turn : m.round = .ok m') (resting : m'.busy = false) :
    m'.Still := by
  obtain ⟨m₁, m₂, noticed, dispatched, served⟩ := round_ok turn
  obtain ⟨free, rfl⟩ := serve_ok served resting
  obtain ⟨seen, cancelled⟩ := dispatchAll_seen dispatched
  have idle := dispatchAll_idle dispatched
  refine ⟨⟨rfl, idle, free.unfinished, fun _ => free.alive⟩,
    free.conclusions, ?_⟩
  show (m₂.cancelled && !m₂.seen) = false
  rw [cancelled, seen]
  exact notice_seen noticed

/-- Alike, whatever the clock of the right one shows and whoever has the turn there. -/
inductive Apart (R : σ → σ → Prop) (m : Machine σ) : Machine σ → Prop
  | mk {slots : List (Slot σ)} {shared : σ} {s : Sampling σ} (busy : Bool) (clock : Nat)
    (bodies : Slot.AllAlike R m.slots slots) (related : R m.shared shared)
    (off : m.sampling = none) (aside : s.Aside R) :
    Apart R m { m with slots, shared, sampling := some s, busy, clock }

theorem Alike.apart (alike : Alike R (Sampling.Extra R) m n) : Apart R m n := by
  cases alike with
  | mk bodies related samples =>
    obtain ⟨off, s, rfl, aside⟩ := samples
    exact .mk m.busy m.clock bodies related off aside

theorem Apart.alike (apart : Apart R m n) (busy : n.busy = m.busy) (clock : n.clock = m.clock) :
    Alike R (Sampling.Extra R) m n := by
  cases apart with
  | mk _ _ bodies related off aside =>
    cases busy
    cases clock
    exact .mk bodies related ⟨off, _, rfl, aside⟩

theorem Apart.withBusy (apart : Apart R m n) (busy busy' : Bool) :
    Apart R { m with busy } { n with busy := busy' } := by
  cases apart with
  | mk _ clock bodies related off aside => exact .mk busy' clock bodies related off aside

theorem Apart.passed (apart : Apart R m n) (clock : Nat) : Apart R m { n with clock } := by
  cases apart with
  | mk busy _ bodies related off aside => exact .mk busy clock bodies related off aside

theorem Apart.sample (apart : Apart R m n) : Apart R m n.sample ∧ n.sample.clock = n.clock := by
  cases apart with
  | mk busy clock bodies related off aside =>
    rw [sample_of_some rfl]
    exact ⟨.mk busy clock bodies (aside _ _ _ _ related) off aside, rfl⟩

theorem Apart.sampling (apart : Apart R m n) :
    m.sampling = none ∧ ∃ s, n.sampling = some s := by
  cases apart with
  | mk _ _ _ _ off => exact ⟨off, _, rfl⟩

theorem Apart.unsampled (apart : Apart R m n) : m.isTickDue = false := by
  rw [isTickDue, apart.sampling.1]

theorem not_isOverdue (patient : m.deadline = none) : m.isOverdue = false := by
  rw [isOverdue, patient]

/-- A scheduler with time samples the state of its books if that is due, and waits otherwise. -/
theorem Apart.serve (apart : Apart R m n) (free : n.HasTime) (patient : n.deadline = none) :
    ∃ n', n.serve = .ok n' ∧ Apart R m n' ∧ n'.clock = n.clock := by
  cases due : n.isTickDue with
  | true =>
    obtain ⟨apart', clock⟩ := apart.sample
    exact ⟨_, free.serve_due due, apart'.withBusy m.busy true, clock⟩
  | false =>
    have waits := free.serve_waits due (not_isOverdue patient)
    exact ⟨_, waits, apart.withBusy m.busy false, rfl⟩

/-- The right run stands where the left one does, or is ahead of it by turns in which its scheduler
found nothing to do but to take samples. -/
inductive Shadows (R : σ → σ → Prop) (m n : Machine σ) : Prop
  | level (alike : Alike R (Sampling.Extra R) m n) (waits : m.busy = false → m.Waits)
  | ahead (apart : Apart R m n) (still : m.Still) (stands : m.queue = [] ∨ n.clock = m.clock)
    (late : ∀ time, m.horizon = some time → max n.clock time = max m.clock time)

/-- In a turn of its scheduler the right run comes to where the left one comes, or to a sample. -/
theorem Alike.round_shadows (alike : Alike R (Sampling.Extra R) m n) (patient : m.deadline = none) :
    Except.Both (Stop.Alike R) (Shadows R) m.round n.round := by
  rcases alike.round_cases with
    ⟨f, failed, failed'⟩ | ⟨m₁, m₂, n₂, noticed, dispatched, served, served', alike₂⟩
  · rw [failed, failed']
    exact .error (.fault f)
  · rcases alike₂.serve_cases with both | ⟨free, free'⟩
    · rcases both.cases with ⟨_, _, stops, stops', alike'⟩ | ⟨m', n', goes, goes', alike'⟩
      · rw [served, served', stops, stops']
        exact .error alike'
      · rw [served, served', goes, goes']
        exact .ok (.level alike' fun resting => (round_still (served.trans goes) resting).toWaits)
    · have patient₂ : m₂.deadline = none := by
        obtain ⟨m₃, books, quietly, next, rfl⟩ := quietly_dispatchAll dispatched
        exact ((quietly_notice noticed).trans quietly).reaches.deadline.trans patient
      have waits := free.serve_waits alike₂.apart.unsampled (not_isOverdue patient₂)
      have same : n₂.deadline = none ∧ n₂.clock = m₂.clock := by
        cases alike₂
        exact ⟨patient₂, rfl⟩
      obtain ⟨n', goes', apart, clock⟩ := alike₂.apart.serve free' same.1
      rw [served, served', waits, goes']
      exact .ok (.ahead (apart.withBusy false n'.busy) (round_still (served.trans waits) rfl)
        (.inr (clock.trans same.2)) fun time _ => by rw [clock, same.2])

/-- A turn that comes too early changes nothing but samples. -/
theorem Apart.round (apart : Apart R m n) (still : m.Still) (patient : m.deadline = none) :
    ∃ n', n.round = .ok n' ∧ Apart R m n' ∧ n'.clock = n.clock := by
  have same : n.deadline = none ∧ n.HasTime ∧ n.notice = .ok n ∧ n.dispatchAll = .ok n := by
    cases apart with
    | mk =>
      refine ⟨patient, ⟨still.unfinished, still.conclusions, still.alive still.conclusions⟩, ?_, ?_⟩
      · rw [notice, still.seen]
        rfl
      · exact dispatchAll_none still.idle
  obtain ⟨patient', free, noticed, dispatched⟩ := same
  rw [round_eq_serve noticed dispatched]
  exact apart.serve free patient'

theorem reach_of_clock {clock time : Nat} (same : max clock time = max m.clock time) :
    reach { m with clock } time = m.reach time := by
  unfold reach
  simp only [same]

theorem Apart.horizon (apart : Apart R m n) : n.horizon = m.horizon := by
  cases apart with
  | @mk slots shared s _ _ bodies related off aside =>
    have level : Alike R (Sampling.Extra R) m { m with slots, shared, sampling := some s } :=
      .mk bodies related ⟨off, s, rfl, aside⟩
    exact level.horizon

theorem Apart.endAlike (apart : Apart R m n) : EndAlike R m n := by
  cases apart with
  | mk _ _ _ related => exact ⟨rfl, rfl, rfl, rfl, rfl, related⟩

theorem advanceClock_stalled (never : m.horizon = none) :
    m.advanceClock = .error (.stalled m) := by
  rw [advanceClock, never]

theorem advanceClock_unsampled {time : Nat} (next : m.horizon = some time)
    (off : m.sampling = none) : m.advanceClock = m.reach time := by
  rw [advanceClock, next]
  simp only [off]

theorem advanceClock_sampled {time : Nat} {s : Sampling σ} (next : m.horizon = some time)
    (on : m.sampling = some s) : m.advanceClock =
      if s.due < time then .ok { m with clock := max m.clock s.due } else m.reach time := by
  rw [advanceClock, next]
  simp only [on]

/-- Where nobody has anything to do, the right run lets time pass until its next sample, or does
what the left one does. -/
theorem Apart.advanceClock (apart : Apart R m n) (still : m.Still) (resting : n.busy = false)
    (queue : m.queue = [])
    (late : ∀ time, m.horizon = some time → max n.clock time = max m.clock time) :
    (∃ n', n.advanceClock = .ok n' ∧ Shadows R m n') ∨
      Except.Both (Stop.Alike R) (Shadows R) m.advanceClock n.advanceClock := by
  obtain ⟨off, s, on⟩ := apart.sampling
  cases next : m.horizon with
  | none =>
    rw [advanceClock_stalled next, advanceClock_stalled (apart.horizon.trans next)]
    exact .inr (.error (.stalled apart.endAlike))
  | some time =>
    have advance := advanceClock_unsampled next off
    have advance' := advanceClock_sampled (apart.horizon.trans next) on
    by_cases earlier : s.due < time
    · left
      refine ⟨_, advance'.trans (if_pos earlier),
        .ahead (apart.passed _) still (.inl queue) fun time' next' => ?_⟩
      rw [next] at next'
      cases next'
      rw [← late time next]
      show max (max n.clock s.due) time = max n.clock time
      omega
    · right
      have level := (apart.passed m.clock).alike (resting.trans still.resting.symm) rfl
      have same : reach { n with clock := m.clock } time = n.reach time :=
        reach_of_clock (late time next).symm
      rw [advance'.trans (if_neg earlier), advance, ← same]
      rcases (level.reach time).cases with
        ⟨_, _, stops, stops', alike⟩ | ⟨m', n', goes, goes', alike⟩
      · rw [stops, stops']
        exact .error alike
      · rw [goes, goes']
        exact .ok (.level alike fun _ => still.toWaits.untold (.advanceClock (advance.trans goes)))

/-! ## Runs -/

/-- While the left run has nothing to do, the right one may take a turn to sample. -/
theorem Apart.step_still (apart : Apart R m n) (still : m.Still) (patient : m.deadline = none)
    (resting : n.busy = false) (queue : m.queue = [])
    (late : ∀ time, m.horizon = some time → max n.clock time = max m.clock time) :
    (∃ n', n.step = .ok n' ∧ Shadows R m n') ∨
      Except.Both (Stop.Alike R) (Shadows R) m.step n.step := by
  have queue' : n.queue = [] := by
    cases apart
    exact queue
  have quiet : m.hasNews = false := by
    rw [hasNews, still.seen, still.conclusions, apart.unsampled]
    rfl
  cases news : n.hasNews with
  | true =>
    obtain ⟨n', turn, apart', clock⟩ := apart.round still patient
    refine .inl ⟨n', (Loops.step (.inr ⟨queue', news⟩)).trans turn,
      .ahead apart' still (.inl queue) ?_⟩
    rw [clock]
    exact late
  | false =>
    rw [step_quiet still.resting queue quiet, step_quiet resting queue' news]
    exact apart.advanceClock still resting queue late

theorem Alike.step_shadows (alike : Alike R (Sampling.Extra R) m n) (patient : m.deadline = none)
    (waits : m.busy = false → m.Waits) :
    (∃ n', n.step = .ok n' ∧ Shadows R m n') ∨
      Except.Both (Stop.Alike R) (Shadows R) m.step n.step := by
  have busy' : n.busy = m.busy := by
    cases alike
    rfl
  have queue' : n.queue = m.queue := by
    cases alike
    rfl
  cases busy : m.busy with
  | true =>
    rw [Loops.step (.inl busy), Loops.step (.inl (busy'.trans busy))]
    exact .inr (alike.round_shadows patient)
  | false =>
    have resting := busy'.trans busy
    cases queue : m.queue with
    | cons job rest =>
      rw [step_queue busy queue, step_queue resting (queue'.trans queue)]
      exact .inr (.ok (.level ((alike.withQueue rest).poll job) fun _ =>
        (waits busy).untold (.turn m job rest)))
    | nil =>
      cases news : m.hasNews with
      | true =>
        have news' : n.hasNews = true := by
          rw [hasNews, alike.apart.unsampled, Bool.or_false] at news
          cases alike
          rw [hasNews, Bool.or_eq_true]
          exact .inl news
        rw [Loops.step (.inr ⟨queue, news⟩), Loops.step (.inr ⟨queue'.trans queue, news'⟩)]
        exact .inr (alike.round_shadows patient)
      | false =>
        rw [hasNews, Bool.or_eq_false_iff, Bool.or_eq_false_iff] at news
        have still : m.Still :=
          { waits busy with conclusions := by simpa using news.1.2, seen := news.1.1 }
        have clock : n.clock = m.clock := by
          cases alike
          rfl
        exact alike.apart.step_still still patient resting queue fun _ _ => by rw [clock]

/-- A step of the right run leaves the left one where it is, or is the step of both. -/
theorem Shadows.step (shadows : Shadows R m n) (patient : m.deadline = none) :
    (∃ n', n.step = .ok n' ∧ Shadows R m n') ∨
      Except.Both (Stop.Alike R) (Shadows R) m.step n.step := by
  cases shadows with
  | level alike waits => exact alike.step_shadows patient waits
  | ahead apart still stands late =>
    cases busy : n.busy with
    | true =>
      obtain ⟨n', turn, apart', clock⟩ := apart.round still patient
      refine .inl ⟨n', (Loops.step (.inl busy)).trans turn, .ahead apart' still ?_ ?_⟩ <;>
        rw [clock] <;> assumption
    | false =>
      rcases stands with queue | clock
      · exact apart.step_still still patient busy queue late
      · exact (apart.alike (busy.trans still.resting.symm) clock).step_shadows patient fun _ =>
          still.toWaits

/-- A run with samples stops where the run without them stops. -/
theorem Shadows.run (shadows : Shadows R m n) (patient : m.deadline = none) :
    Stop.Alike R m.run n.run := by
  refine run_simulated (T := fun m n => Shadows R m n ∧ m.deadline = none) ?_ ⟨shadows, patient⟩
  rintro m n ⟨shadows, patient⟩
  rcases shadows.step patient with ⟨n', goes', shadows'⟩ | both
  · exact .inl ⟨n', goes', shadows', patient⟩
  · right
    rcases both.cases with ⟨_, _, stops, stops', alike⟩ | ⟨m', n', goes, goes', shadows'⟩
    · rw [stops, stops']
      exact .error alike
    · rw [goes, goes']
      exact .ok ⟨shadows', (reaches_step goes).deadline.trans patient⟩

end Machine

end KeyFlow
