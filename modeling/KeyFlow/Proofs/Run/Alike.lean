import Mathlib.Data.List.Forall2
import KeyFlow.Proofs.Run.Serving

/-!
Runs over states that are related. Two bodies are alike if what they change keeps related states
related and what they do is the same whichever of them they see; two machines of such bodies take
the same steps, so that their runs stop at the same point with the same books.
-/

namespace KeyFlow

/-- Both fail alike, or both succeed alike. -/
inductive Except.Both {ε ε' α α' : Type} (E : ε → ε' → Prop) (A : α → α' → Prop) :
    Except ε α → Except ε' α' → Prop
  | error {e : ε} {e' : ε'} (alike : E e e') : Both E A (.error e) (.error e')
  | ok {a : α} {a' : α'} (alike : A a a') : Both E A (.ok a) (.ok a')

theorem Except.Both.cases {ε ε' α α' : Type} {E : ε → ε' → Prop} {A : α → α' → Prop}
    {x : Except ε α} {y : Except ε' α'} (both : Both E A x y) :
    (∃ e e', x = .error e ∧ y = .error e' ∧ E e e') ∨ ∃ a a', x = .ok a ∧ y = .ok a' ∧ A a a' := by
  cases both with
  | error alike => exact .inl ⟨_, _, rfl, rfl, alike⟩
  | ok alike => exact .inr ⟨_, _, rfl, rfl, alike⟩

variable {σ α : Type} {R : σ → σ → Prop}

/-- Two bodies that do the same over related states, and keep them related. -/
inductive Process.Alike (R : σ → σ → Prop) : Process σ α → Process σ α → Prop
  | done (a : α) : Alike R (.done a) (.done a)
  | call {f g : σ → σ} {next next' : σ → Process σ α} (keeps : ∀ s t, R s t → R (f s) (g t))
    (rest : ∀ s t, R s t → Alike R (next s) (next' t)) : Alike R (.call f next) (.call g next')
  | sleep (millis : Nat) {next next' : Nat → Process σ α} (rest : ∀ t, Alike R (next t) (next' t)) :
    Alike R (.sleep millis next) (.sleep millis next')
  | awaitCancel {next next' : Nat → Process σ α} (rest : ∀ t, Alike R (next t) (next' t)) :
    Alike R (.awaitCancel next) (.awaitCancel next')
  | isCancelled {next next' : Bool → Process σ α} (rest : ∀ b, Alike R (next b) (next' b)) :
    Alike R (.isCancelled next) (.isCancelled next')
  | cancelRun {next next' : Process σ α} (rest : Alike R next next') :
    Alike R (.cancelRun next) (.cancelRun next')
  | cancelOwn {next next' : Process σ α} (rest : Alike R next next') :
    Alike R (.cancelOwn next) (.cancelOwn next')

namespace Process

theorem change_alike {f g : σ → σ} {next next' : Process σ α}
    (keeps : ∀ s t, R s t → R (f s) (g t)) (rest : Alike R next next') :
    Alike R (change f next) (change g next') := .call keeps fun _ _ _ => rest

theorem look_alike {next next' : σ → Process σ α}
    (rest : ∀ s t, R s t → Alike R (next s) (next' t)) : Alike R (look next) (look next') :=
  .call (fun _ _ related => related) rest

theorem attempt_alike {ε : Type} {f g : σ → Except ε Unit × σ} {onError onError' : ε → Process σ α}
    {next next' : Process σ α}
    (tries : ∀ s t, R s t → (g t).1 = (f s).1 ∧ R (f s).2 (g t).2)
    (failed : ∀ e, Alike R (onError e) (onError' e)) (rest : Alike R next next') :
    Alike R (attempt f onError next) (attempt g onError' next') := by
  refine .call (fun s t related => (tries s t related).2) fun s t related => ?_
  rw [(tries s t related).1]
  cases (f s).1 with
  | error e => exact failed e
  | ok _ => exact rest

/-- A body that is answered the same from related states, and goes on alike where it ends. -/
theorem interpret_alike {κ τ β : Type} {ρ : κ → Type}
    {answer : τ → (request : κ) → σ → ρ request × τ × σ} {k k' : τ → α → Process σ β}
    (answers : ∀ own request s t, R s t →
      (answer own request t).1 = (answer own request s).1 ∧
      (answer own request t).2.1 = (answer own request s).2.1 ∧
      R (answer own request s).2.2 (answer own request t).2.2)
    (rest : ∀ own a, Alike R (k own a) (k' own a)) (own : τ) (body : Body κ ρ α) :
    Alike R (body.interpret answer k own) (body.interpret answer k' own) := by
  induction body generalizing own with
  | done a => exact rest own a
  | call request next ih =>
    refine .call (fun s t related => (answers own request s t related).2.2) fun s t related => ?_
    obtain ⟨reply, own', _⟩ := answers own request s t related
    rw [reply, own']
    exact ih _ _
  | sleep millis next ih => exact .sleep millis fun t => ih t own
  | awaitCancel next ih => exact .awaitCancel fun t => ih t own
  | isCancelled next ih => exact .isCancelled fun b => ih b own
  | cancelRun next ih => exact .cancelRun (ih own)
  | cancelOwn next ih => exact .cancelOwn (ih own)

end Process

inductive Pause.Alike (R : σ → σ → Prop) : Pause σ → Pause σ → Prop
  | ended (e : Ending Completion) : Alike R (.ended e) (.ended e)
  | asleep (millis : Nat) {next next' : Nat → JobBody σ}
    (rest : ∀ t, Process.Alike R (next t) (next' t)) :
    Alike R (.asleep millis next) (.asleep millis next')
  | awaiting {next next' : Nat → JobBody σ} (rest : ∀ t, Process.Alike R (next t) (next' t)) :
    Alike R (.awaiting next) (.awaiting next')

inductive World.Alike (R : σ → σ → Prop) (w : World σ) : World σ → Prop
  | mk {shared : σ} (related : R w.shared shared) : Alike R w { w with shared }

/-- Up to their next pause bodies that are alike go the same way. -/
theorem JobBody.advance_alike {p q : JobBody σ} (alike : Process.Alike R p q) {w w' : World σ}
    (same : World.Alike R w w') :
    Pause.Alike R (p.advance w).1 (q.advance w').1 ∧
      World.Alike R (p.advance w).2 (q.advance w').2 := by
  induction alike generalizing w w' with
  | done e => exact ⟨.ended e, same⟩
  | call keeps _ ih =>
    cases same with
    | mk related => exact ih _ _ related (.mk (keeps _ _ related))
  | sleep millis rest ih =>
    cases same with
    | mk related =>
      cases millis with
      | zero => exact ih w.clock (.mk related)
      | succ n => exact ⟨.asleep (n + 1) rest, .mk related⟩
  | awaitCancel rest ih =>
    cases same with
    | mk related =>
      simp only [advance]
      split
      · exact ih w.clock (.mk related)
      · exact ⟨.awaiting rest, .mk related⟩
  | isCancelled _ ih =>
    cases same with
    | mk related => exact ih _ (.mk related)
  | cancelRun _ ih | cancelOwn _ ih =>
    cases same with
    | mk related => exact ih (.mk related)

namespace Slot

inductive Alike (R : σ → σ → Prop) : Slot σ → Slot σ → Prop
  | fresh {p q : JobBody σ} (alike : Process.Alike R p q) : Alike R (.fresh p) (.fresh q)
  | queued {p q : JobBody σ} (alike : Process.Alike R p q) : Alike R (.queued p) (.queued q)
  | asleep (wakeAt : Nat) {next next' : Nat → JobBody σ}
    (rest : ∀ t, Process.Alike R (next t) (next' t)) :
    Alike R (.asleep wakeAt next) (.asleep wakeAt next')
  | awaiting {next next' : Nat → JobBody σ} (rest : ∀ t, Process.Alike R (next t) (next' t)) :
    Alike R (.awaiting next) (.awaiting next')
  | spent : Alike R .spent .spent

/-- Each slot of one table is like the slot of the other in its place. -/
abbrev AllAlike (R : σ → σ → Prop) : List (Slot σ) → List (Slot σ) → Prop :=
  List.Forall₂ (Alike R)

variable {slots slots' : List (Slot σ)}

theorem AllAlike.at (all : AllAlike R slots slots') (i : Nat) :
    Option.Rel (Alike R) slots[i]? slots'[i]? := by
  induction all generalizing i with
  | nil => exact .none
  | cons head _ ih =>
    cases i with
    | zero => exact .some head
    | succ i => exact ih i

theorem AllAlike.set (all : AllAlike R slots slots') (i : Nat) {new new' : Slot σ}
    (alike : Alike R new new') : AllAlike R (slots.set i new) (slots'.set i new') := by
  induction all generalizing i with
  | nil => exact .nil
  | cons head tail ih =>
    cases i with
    | zero => exact .cons alike tail
    | succ i => exact .cons head (ih i)

theorem AllAlike.wakeTimes (all : AllAlike R slots slots') :
    slots'.map Machine.wakeTime? = slots.map Machine.wakeTime? := by
  induction all with
  | nil => rfl
  | cons head _ ih =>
    rw [List.map_cons, List.map_cons, ih]
    cases head <;> rfl

end Slot

namespace Machine

/-- Machines that differ in what they share, in what comes of that, and in how they are sampled. -/
inductive Alike (R : σ → σ → Prop) (S : Option (Sampling σ) → Option (Sampling σ) → Prop)
    (m : Machine σ) : Machine σ → Prop
  | mk {slots : List (Slot σ)} {shared : σ} {sampling : Option (Sampling σ)}
    (bodies : Slot.AllAlike R m.slots slots) (related : R m.shared shared)
    (samples : S m.sampling sampling) : Alike R S m { m with slots, shared, sampling }

variable {m n : Machine σ} {S : Option (Sampling σ) → Option (Sampling σ) → Prop}

/-! ## Bodies -/

theorem Alike.wake (alike : Alike R S m n) (job : Nat) : Alike R S (m.wake job) (n.wake job) := by
  cases alike with
  | @mk slots shared sampling bodies related samples =>
    have found := bodies.at job
    unfold Machine.wake
    simp only
    generalize m.slots[job]? = old, slots[job]? = old' at found ⊢
    cases found with
    | none => exact .mk bodies related samples
    | some same =>
      cases same with
      | asleep wakeAt rest | awaiting rest =>
        exact .mk (bodies.set job (.queued (rest m.clock))) related samples
      | fresh | queued | spent => exact .mk bodies related samples

theorem Alike.wakeAll (jobs : List Nat) (alike : Alike R S m n) :
    Alike R S (jobs.foldl Machine.wake m) (jobs.foldl Machine.wake n) := by
  induction jobs generalizing m n with
  | nil => exact alike
  | cons job _ ih => exact ih (alike.wake job)

theorem Alike.isWaiting (alike : Alike R S m n) (job : Nat) :
    n.isWaiting job = m.isWaiting job := by
  cases alike with
  | @mk slots shared sampling bodies =>
    have found := bodies.at job
    unfold Machine.isWaiting
    simp only
    generalize m.slots[job]? = old, slots[job]? = old' at found ⊢
    cases found with
    | none => rfl
    | some same => cases same <;> rfl

theorem Alike.wakeWaiters (alike : Alike R S m n) :
    Alike R S m.wakeWaiters n.wakeWaiters := by
  have order : n.reachOrder.filter n.isWaiting = m.reachOrder.filter m.isWaiting := by
    rw [show n.isWaiting = m.isWaiting from funext alike.isWaiting]
    cases alike
    rfl
  rw [Machine.wakeWaiters, Machine.wakeWaiters, order]
  exact alike.wakeAll _

theorem Alike.conclude (alike : Alike R S m n) (job : Nat) {pause pause' : Pause σ}
    (same : Pause.Alike R pause pause') :
    Alike R S (m.conclude job pause) (n.conclude job pause') := by
  cases alike with
  | mk bodies related samples => cases same <;> exact .mk bodies related samples

theorem slotAfter_alike {pause pause' : Pause σ} (same : Pause.Alike R pause pause') (clock : Nat) :
    Slot.Alike R (slotAfter clock pause) (slotAfter clock pause') := by
  cases same with
  | ended e => exact .spent
  | asleep millis rest => exact .asleep _ rest
  | awaiting rest => exact .awaiting rest

theorem Alike.leave (alike : Alike R S m n) (job : Nat) {pause pause' : Pause σ} {w w' : World σ}
    (same : Pause.Alike R pause pause') (seen : World.Alike R w w') :
    Alike R S (m.leave job pause w) (n.leave job pause' w') := by
  cases alike with
  | mk bodies _ samples =>
    cases seen with
    | mk related =>
      unfold Machine.leave
      simp only
      apply Alike.conclude _ job same
      have moved := bodies.set job (slotAfter_alike same m.clock)
      split
      · exact Alike.wakeWaiters (.mk moved related samples)
      · exact .mk moved related samples

theorem Alike.poll (alike : Alike R S m n) (job : Nat) : Alike R S (m.poll job) (n.poll job) := by
  cases alike with
  | @mk slots shared sampling bodies related samples =>
    have found := bodies.at job
    unfold Machine.poll
    simp only
    generalize m.slots[job]? = old, slots[job]? = old' at found ⊢
    cases found with
    | none => exact .mk bodies related samples
    | some same =>
      cases same with
      | queued like =>
        obtain ⟨pauses, worlds⟩ :=
          JobBody.advance_alike (w := m.world job) like (World.Alike.mk related)
        exact Alike.leave (.mk bodies related samples) job pauses worlds
      | fresh | asleep | awaiting | spent => exact .mk bodies related samples

/-! ## The scheduler's turn -/

theorem Alike.notice (alike : Alike R S m n) :
    Except.Both (· = ·) (Alike R S) m.notice n.notice := by
  cases alike with
  | mk bodies related samples =>
    unfold Machine.notice
    simp only
    split
    · split
      · exact .error rfl
      · exact .ok (.mk bodies related samples)
    · exact .ok (.mk bodies related samples)

theorem Alike.books (alike : Alike R S m n) : n.books = m.books := by
  cases alike
  rfl

/-- A job without a body to start has none on the other side. -/
theorem Alike.gone (alike : Alike R S m n) {job : Nat}
    (gone : ∀ body, m.slots[job]? ≠ some (.fresh body)) :
    ∀ body, n.slots[job]? ≠ some (.fresh body) := by
  cases alike with
  | @mk slots _ _ bodies =>
    intro body (fresh : slots[job]? = some (.fresh body))
    have found := bodies.at job
    rw [fresh] at found
    generalize there : m.slots[job]? = old at found
    cases found with
    | some same =>
      cases same
      exact gone _ there

theorem Alike.dispatchAll (alike : Alike R S m n) :
    Except.Both (· = ·) (Alike R S) m.dispatchAll n.dispatchAll := by
  fun_induction Machine.dispatchAll m generalizing n with
  | case1 m f next =>
    rw [dispatchAll_error (alike.books ▸ next)]
    exact .error rfl
  | case2 m books next =>
    rw [dispatchAll_none (alike.books ▸ next)]
    cases alike with
    | mk bodies related samples => exact .ok (.mk bodies related samples)
  | case3 m job books next body fresh ih =>
    have next' := alike.books ▸ next
    cases alike with
    | @mk slots _ _ bodies related samples =>
      have found := bodies.at job
      rw [fresh] at found
      generalize there : slots[job]? = old at found
      cases found with
      | some same =>
        cases same with
        | fresh like =>
          rw [dispatchAll_fresh next' there]
          exact ih (.mk (bodies.set job (.queued like)) related samples)
  | case4 m job books next f failed gone =>
    rw [dispatchAll_forgone (alike.books ▸ next) (alike.gone gone), failed]
    exact .error rfl
  | case5 m job books next books₁ failed gone ih =>
    have next' : n.books.nextDispatch = .ok (some job, books) := alike.books ▸ next
    rw [dispatchAll_forgone next' (alike.gone gone), failed]
    cases alike with
    | mk bodies related samples => exact ih (.mk bodies related samples)

theorem Alike.record (alike : Alike R S m n) (job : Nat) (c : Conclusion) :
    Except.Both (· = ·) (Alike R S) (m.record job c) (n.record job c) := by
  cases alike with
  | mk bodies related samples =>
    unfold Machine.record
    simp only
    split
    · exact .error rfl
    · exact .ok (.mk bodies related samples)

/-- What a run comes to is the same, except for what the jobs share. -/
structure EndAlike (R : σ → σ → Prop) (m n : Machine σ) : Prop where
  books : n.books = m.books
  errors : n.errors = m.errors
  cancelled : n.cancelled = m.cancelled
  seen : n.seen = m.seen
  timeline : n.timeline = m.timeline
  shared : R m.shared n.shared

theorem Alike.endAlike (alike : Alike R S m n) : EndAlike R m n := by
  cases alike with
  | mk _ related => exact ⟨rfl, rfl, rfl, rfl, rfl, related⟩

end Machine

/-- Both runs stop for the same reason. -/
inductive Stop.Alike (R : σ → σ → Prop) : Stop σ → Stop σ → Prop
  | finished {m n : Machine σ} (alike : Machine.EndAlike R m n) :
    Alike R (.finished m) (.finished n)
  | timedOut {m n : Machine σ} (alike : Machine.EndAlike R m n) :
    Alike R (.timedOut m) (.timedOut n)
  | stalled {m n : Machine σ} (alike : Machine.EndAlike R m n) :
    Alike R (.stalled m) (.stalled n)
  | fault (f : Fault) : Alike R (.fault f) (.fault f)

namespace Machine

variable {m n : Machine σ} {S : Option (Sampling σ) → Option (Sampling σ) → Prop}

theorem Alike.giveUp (alike : Alike R S m n) : Stop.Alike R m.giveUp n.giveUp := by
  cases alike with
  | mk bodies related samples =>
    unfold Machine.giveUp
    simp only
    split
    · exact .fault _
    · split
      · exact .finished ⟨rfl, rfl, rfl, rfl, rfl, related⟩
      · exact .stalled ⟨rfl, rfl, rfl, rfl, rfl, related⟩

theorem Alike.withBusy (alike : Alike R S m n) (busy : Bool) :
    Alike R S { m with busy } { n with busy } := by
  cases alike with
  | mk bodies related samples => exact .mk bodies related samples

theorem Alike.withQueue (alike : Alike R S m n) (queue : List Nat) :
    Alike R S { m with queue } { n with queue } := by
  cases alike with
  | mk bodies related samples => exact .mk bodies related samples

theorem Alike.withConclusions (alike : Alike R S m n) (conclusions : List (Nat × Conclusion)) :
    Alike R S { m with conclusions } { n with conclusions } := by
  cases alike with
  | mk bodies related samples => exact .mk bodies related samples

theorem Alike.conclusions (alike : Alike R S m n) : n.conclusions = m.conclusions := by
  cases alike
  rfl

theorem Alike.tokens (alike : Alike R S m n) : n.tokens = m.tokens := by
  cases alike
  rfl

theorem Alike.isOverdue (alike : Alike R S m n) : n.isOverdue = m.isOverdue := by
  cases alike
  rfl

theorem serve_ended {job : Nat} {c : Conclusion} {rest : List (Nat × Conclusion)}
    (unfinished : m.books.isFinished = false) (ended : m.conclusions = (job, c) :: rest) :
    m.serve = match record { m with conclusions := rest, busy := true } job c with
      | .error f => .error (.fault f)
      | .ok m => .ok m := by
  rw [serve, if_neg (Bool.not_eq_true _ ▸ unfinished)]
  split <;> rename_i found <;> rw [ended] at found <;> cases found
  rfl

theorem serve_stuck (unfinished : m.books.isFinished = false) (noConclusions : m.conclusions = [])
    (nobody : m.tokens.isEmpty = true) : m.serve = .error m.giveUp := by
  rw [serve, if_neg (Bool.not_eq_true _ ▸ unfinished), noConclusions]
  exact if_pos nobody

/-- The scheduler has nothing to do until one of the jobs that run has ended. -/
structure HasTime (m : Machine σ) : Prop where
  unfinished : m.books.isFinished = false
  conclusions : m.conclusions = []
  alive : m.tokens.isEmpty = false

theorem HasTime.serve_due (free : m.HasTime) (due : m.isTickDue = true) :
    m.serve = .ok { m.sample with busy := true } := by
  rw [serve, if_neg (Bool.not_eq_true _ ▸ free.unfinished), free.conclusions]
  exact (if_neg (Bool.not_eq_true _ ▸ free.alive)).trans (if_pos due)

theorem HasTime.serve_late (free : m.HasTime) (early : m.isTickDue = false)
    (late : m.isOverdue = true) : m.serve = .error (.timedOut m) := by
  rw [serve, if_neg (Bool.not_eq_true _ ▸ free.unfinished), free.conclusions]
  exact (if_neg (Bool.not_eq_true _ ▸ free.alive)).trans
    ((if_neg (Bool.not_eq_true _ ▸ early)).trans (if_pos late))

theorem HasTime.serve_waits (free : m.HasTime) (early : m.isTickDue = false)
    (patient : m.isOverdue = false) : m.serve = .ok { m with busy := false } := by
  rw [serve, if_neg (Bool.not_eq_true _ ▸ free.unfinished), free.conclusions]
  exact (if_neg (Bool.not_eq_true _ ▸ free.alive)).trans
    ((if_neg (Bool.not_eq_true _ ▸ early)).trans (if_neg (Bool.not_eq_true _ ▸ patient)))

/-- Schedulers do the same in their turns, unless both have time to look at the clock. -/
theorem Alike.serve_cases (alike : Alike R S m n) :
    Except.Both (Stop.Alike R) (Alike R S) m.serve n.serve ∨ (m.HasTime ∧ n.HasTime) := by
  cases finished : m.books.isFinished with
  | true =>
    rw [serve_finished finished, serve_finished (alike.books ▸ finished)]
    exact .inl (.error (.finished alike.endAlike))
  | false =>
    have finished' := alike.books ▸ finished
    cases conclusions : m.conclusions with
    | cons head rest =>
      obtain ⟨job, c⟩ := head
      rw [serve_ended finished conclusions, serve_ended finished' (alike.conclusions ▸ conclusions)]
      rcases (((alike.withConclusions rest).withBusy true).record job c).cases with
        ⟨f, _, failed, failed', rfl⟩ | ⟨m', n', recorded, recorded', alike'⟩
      · rw [failed, failed']
        exact .inl (.error (.fault f))
      · rw [recorded, recorded']
        exact .inl (.ok alike')
    | nil =>
      have noConclusions := alike.conclusions ▸ conclusions
      cases nobody : m.tokens.isEmpty with
      | true =>
        rw [serve_stuck finished conclusions nobody,
          serve_stuck finished' noConclusions (alike.tokens ▸ nobody)]
        exact .inl (.error alike.giveUp)
      | false =>
        exact .inr ⟨⟨finished, conclusions, nobody⟩,
          ⟨finished', noConclusions, alike.tokens ▸ nobody⟩⟩

/-- Before that both see what there was to see, and start the same jobs. -/
theorem Alike.round_cases (alike : Alike R S m n) :
    (∃ f, m.round = .error (.fault f) ∧ n.round = .error (.fault f)) ∨
      ∃ m₁ m₂ n₂, m.notice = .ok m₁ ∧ m₁.dispatchAll = .ok m₂ ∧ m.round = m₂.serve ∧
        n.round = n₂.serve ∧ Alike R S m₂ n₂ := by
  rcases alike.notice.cases with ⟨f, _, failed, failed', rfl⟩ | ⟨m₁, n₁, noticed, noticed', alike₁⟩
  · exact .inl ⟨f, by rw [round, failed], by rw [round, failed']⟩
  · rcases alike₁.dispatchAll.cases with
      ⟨f, _, failed, failed', rfl⟩ | ⟨m₂, n₂, dispatched, dispatched', alike₂⟩
    · refine .inl ⟨f, ?_, ?_⟩
      · rw [round, noticed]
        simp only [failed]
      · rw [round, noticed']
        simp only [failed']
    · exact .inr ⟨m₁, m₂, n₂, noticed, dispatched, round_eq_serve noticed dispatched,
        round_eq_serve noticed' dispatched', alike₂⟩

/-! ## The clock -/

theorem Alike.horizon (alike : Alike R S m n) : n.horizon = m.horizon := by
  have times (slots : List (Slot σ)) :
      slots.filterMap wakeTime? = (slots.map wakeTime?).filterMap id := by
    rw [List.filterMap_map]
    rfl
  cases alike with
  | mk bodies =>
    unfold Machine.horizon
    rw [times, times, bodies.wakeTimes]

theorem Alike.sleeper? (alike : Alike R S m n) (time : Nat) :
    n.sleeper? time = m.sleeper? time := by
  have index (slots : List (Slot σ)) :
      slots.findIdx? (fun slot => wakeTime? slot == some time) =
        (slots.map wakeTime?).findIdx? (· == some time) := by
    rw [List.findIdx?_map]
    rfl
  cases alike with
  | mk bodies =>
    unfold Machine.sleeper?
    rw [index, index, bodies.wakeTimes]

theorem Alike.passed (alike : Alike R S m n) (time : Nat) :
    Alike R S { m with clock := max m.clock time } { n with clock := max n.clock time } := by
  cases alike with
  | mk bodies related samples => exact .mk bodies related samples

theorem Alike.reach (alike : Alike R S m n) (time : Nat) :
    Except.Both (Stop.Alike R) (Alike R S) (m.reach time) (n.reach time) := by
  have passed := alike.passed time
  have ends := passed.endAlike
  have woken := passed.wake
  have asleep := passed.sleeper? time
  have arrived : Alike R S { m with clock := max m.clock time, cancelAt := none, cancelled := true }
      { n with clock := max n.clock time, cancelAt := none, cancelled := true } := by
    cases alike with
    | mk bodies related samples => exact .mk bodies related samples
  have all := arrived.wakeWaiters
  cases alike with
  | mk bodies related samples =>
    unfold Machine.reach
    simp only
    split
    · exact .error (.timedOut ends)
    · split
      · exact .ok all
      · rw [asleep]
        split
        · exact .ok (woken _)
        · exact .error (.stalled ends)

end Machine

end KeyFlow
