import KeyFlow.Proofs.Run.Reported
import KeyFlow.Proofs.Run.Turns

/-!
What comes of a part of a body in a run. A process that is played again in what the body saw at each
of its turns comes to what it came to in the run; so it can be said of the first part of a job what
it came to, and what the job made of that.
-/

namespace KeyFlow

namespace Process

variable {σ α β : Type}

/-- Runs a process up to its next pause: to its result, or to what it goes on with on waking. -/
def turn : Process σ α → World σ → (α ⊕ (Nat → Process σ α)) × World σ
  | .done a, w => (.inl a, w)
  | .call change next, w => turn (next w.shared) { w with shared := change w.shared }
  | .sleep 0 next, w => turn (next w.clock) w
  | .sleep (_ + 1) next, w => (.inr next, w)
  | .awaitCancel next, w =>
    if w.cancelled || w.ownCancelled then turn (next w.clock) w else (.inr next, w)
  | .isCancelled next, w => turn (next (w.cancelled || w.ownCancelled)) w
  | .cancelRun next, w => turn next { w with cancelled := true }
  | .cancelOwn next, w => turn next { w with ownCancelled := w.ownCancelled || !w.cancelled }

/-- What a process comes to when it sees these worlds, one at each of its turns, and the world that
it leaves behind. It sleeps from one turn to the next. -/
def replay (p : Process σ α) : List (World σ) → Option (α × World σ)
  | [] => none
  | w :: ws =>
    match p.turn w with
    | (.inl a, w') => some (a, w')
    | (.inr next, _) => ws.head?.bind fun woken => replay (next woken.clock) ws

/-- The process, and then what is made of its result. -/
def andThen (k : α → Process σ β) : Process σ α → Process σ β
  | .done a => k a
  | .call change next => .call change fun s => andThen k (next s)
  | .sleep millis next => .sleep millis fun t => andThen k (next t)
  | .awaitCancel next => .awaitCancel fun t => andThen k (next t)
  | .isCancelled next => .isCancelled fun b => andThen k (next b)
  | .cancelRun next => .cancelRun (andThen k next)
  | .cancelOwn next => .cancelOwn (andThen k next)

/-- Every request of the process changes the state of the run like this. -/
def Within (R : σ → σ → Prop) : Process σ α → Prop
  | .done _ => True
  | .call change next => ∀ s, R s (change s) ∧ Within R (next s)
  | .sleep _ next | .awaitCancel next => ∀ t, Within R (next t)
  | .isCancelled next => ∀ b, Within R (next b)
  | .cancelRun next | .cancelOwn next => Within R next

variable {p : Process σ α} {k : α → Process σ β} {w w' : World σ} {a : α}
  {next : Nat → Process σ α}

theorem turn_andThen (p : Process σ α) (k : α → Process σ β) (w : World σ) :
    (andThen k p).turn w = match p.turn w with
      | (.inl a, w') => (k a).turn w'
      | (.inr next, w') => (.inr fun t => andThen k (next t), w') := by
  induction p generalizing w with
  | done a => rfl
  | call change next ih => exact ih w.shared _
  | sleep millis next ih =>
    cases millis with
    | zero => exact ih w.clock w
    | succ n => rfl
  | awaitCancel next ih =>
    rw [andThen, turn, turn]
    split
    · exact ih w.clock w
    · rfl
  | isCancelled next ih => exact ih _ w
  | cancelRun next ih | cancelOwn next ih => exact ih _

theorem turn_andThen_of_inl (came : p.turn w = (.inl a, w')) :
    (andThen k p).turn w = (k a).turn w' := by
  rw [turn_andThen, came]

theorem turn_andThen_of_inr (paused : p.turn w = (.inr next, w')) :
    (andThen k p).turn w = (.inr fun t => andThen k (next t), w') := by
  rw [turn_andThen, paused]

theorem replay_of_inl (came : p.turn w = (.inl a, w')) (ws : List (World σ)) :
    p.replay (w :: ws) = some (a, w') := by
  rw [replay, came]

theorem replay_of_inr (paused : p.turn w = (.inr next, w')) (ws : List (World σ)) :
    p.replay (w :: ws) = ws.head?.bind fun woken => (next woken.clock).replay ws := by
  rw [replay, paused]

theorem within_turn {R : σ → σ → Prop} (refl : ∀ s, R s s)
    (trans : ∀ s s' s'', R s s' → R s' s'' → R s s'') (within : p.Within R) (w : World σ) :
    R w.shared (p.turn w).2.shared ∧
      ∀ next w', p.turn w = (.inr next, w') → ∀ t, (next t).Within R := by
  induction p generalizing w with
  | done a =>
    refine ⟨refl _, ?_⟩
    rintro _ _ ⟨⟩
  | call change next ih =>
    obtain ⟨first, rest⟩ := within w.shared
    obtain ⟨last, paused⟩ := ih w.shared rest { w with shared := change w.shared }
    exact ⟨trans _ _ _ first last, paused⟩
  | sleep millis next ih =>
    cases millis with
    | zero => exact ih w.clock (within w.clock) w
    | succ n =>
      refine ⟨refl _, ?_⟩
      rintro _ _ ⟨⟩
      exact within
  | awaitCancel next ih =>
    rw [turn]
    split
    · exact ih w.clock (within w.clock) w
    · refine ⟨refl _, ?_⟩
      rintro _ _ ⟨⟩
      exact within
  | isCancelled next ih => exact ih _ (within _) w
  | cancelRun next ih => exact ih within { w with cancelled := true }
  | cancelOwn next ih =>
    exact ih within { w with ownCancelled := w.ownCancelled || !w.cancelled }

theorem andThen_map {γ : Type} (f : α → β) (k : β → Process σ γ) (p : Process σ α) :
    andThen k (p.map f) = andThen (fun a => k (f a)) p := by
  induction p with
  | done a => rfl
  | call change next ih => exact congrArg (Body.call change) (funext ih)
  | sleep millis next ih => exact congrArg (Body.sleep millis) (funext ih)
  | awaitCancel next ih => exact congrArg Body.awaitCancel (funext ih)
  | isCancelled next ih => exact congrArg Body.isCancelled (funext ih)
  | cancelRun next ih => exact congrArg Body.cancelRun ih
  | cancelOwn next ih => exact congrArg Body.cancelOwn ih

theorem Within.map {R : σ → σ → Prop} (within : Within R p) (f : α → β) :
    Within R (p.map f) := by
  induction p with
  | done a => trivial
  | call change next ih => exact fun s => ⟨(within s).1, ih s (within s).2⟩
  | sleep _ next ih | awaitCancel next ih => exact fun t => ih t (within t)
  | isCancelled next ih => exact fun b => ih b (within b)
  | cancelRun next ih | cancelOwn next ih => exact ih within

/-- What comes of a job's body up to its next pause. -/
theorem advance_of_turn (body : JobBody σ) (w : World σ) :
    (∃ c w', body.turn w = (.inl c, w') ∧ body.advance w = (.ended c, w')) ∨
      ∃ next w', body.turn w = (.inr next, w') ∧ (body.advance w).2 = w' ∧
        ((∃ millis, (body.advance w).1 = .asleep millis next) ∨
          (body.advance w).1 = .awaiting next) := by
  induction body generalizing w with
  | done e => exact .inl ⟨e, w, rfl, rfl⟩
  | call change next ih => exact ih w.shared _
  | sleep millis next ih =>
    cases millis with
    | zero => exact ih w.clock w
    | succ n => exact .inr ⟨next, w, rfl, rfl, .inl ⟨n + 1, rfl⟩⟩
  | awaitCancel next ih =>
    rw [turn, JobBody.advance]
    split
    · exact ih w.clock w
    · exact .inr ⟨next, w, rfl, rfl, .inr rfl⟩
  | isCancelled next ih => exact ih _ w
  | cancelRun next ih | cancelOwn next ih => exact ih _

end Process

/-- What is left of a job is the rest of a process of this kind, and then `k`. In the turns that are
still to come the rest comes to this result. -/
inductive Slot.Rest {σ α : Type} (kind : Process σ α → Prop) (k : α → JobBody σ)
    (result : Option (α × World σ)) (ws : List (World σ)) : Slot σ → Prop
  | fresh (p : Process σ α) (is : kind p) (comes : p.replay ws = result) :
    Rest kind k result ws (.fresh (Process.andThen k p))
  | queued (p : Process σ α) (is : kind p) (comes : p.replay ws = result) :
    Rest kind k result ws (.queued (Process.andThen k p))
  | asleep (wakeAt : Nat) (next : Nat → Process σ α) (is : ∀ t, kind (next t))
    (comes : (ws.head?.bind fun w => (next w.clock).replay ws) = result) :
    Rest kind k result ws (.asleep wakeAt fun t => Process.andThen k (next t))
  | awaiting (next : Nat → Process σ α) (is : ∀ t, kind (next t))
    (comes : (ws.head?.bind fun w => (next w.clock).replay ws) = result) :
    Rest kind k result ws (.awaiting fun t => Process.andThen k (next t))
  | spent : Rest kind k result ws .spent

theorem Slot.Rest.stirred {σ α : Type} {kind : Process σ α → Prop} {k : α → JobBody σ}
    {result : Option (α × World σ)} {ws : List (World σ)} {slot new : Slot σ} {clock : Nat}
    (rest : slot.Rest kind k result ws) (stirred : slot.Stirred clock new)
    (time : ∀ body, new = .queued body → ∀ w ∈ ws.head?, w.clock = clock) :
    new.Rest kind k result ws := by
  have woken (next : Nat → Process σ α) (time : ∀ w ∈ ws.head?, w.clock = clock)
      (comes : (ws.head?.bind fun w => (next w.clock).replay ws) = result) :
      (next clock).replay ws = result := by
    cases ws with
    | nil => exact comes
    | cons w ws =>
      rw [← time w rfl]
      exact comes
  cases stirred with
  | same => exact rest
  | started body =>
    cases rest with
    | fresh p is comes => exact .queued p is comes
  | woken wakeAt next =>
    cases rest with
    | asleep _ next is comes => exact .queued _ (is clock) (woken next (time _ rfl) comes)
  | resumed next =>
    cases rest with
    | awaiting next is comes => exact .queued _ (is clock) (woken next (time _ rfl) comes)

namespace Machine

variable {σ α : Type} {start m m' : Machine σ} {deps : List (List Nat)} {job : Nat}
  {kind : Process σ α → Prop} {p : Process σ α} {k : α → JobBody σ}

/-- The job starts with this process, of a kind that its turns keep, and ends without a pause as `k`
says. -/
structure Opens (kind : Process σ α → Prop) (p : Process σ α) (k : α → JobBody σ)
    (start : Machine σ) (job : Nat) : Prop where
  slot : start.slots[job]? = some (.fresh (Process.andThen k p))
  is : kind p
  keeps : ∀ (p : Process σ α) w next w', kind p → p.turn w = (.inr next, w') → ∀ t, kind (next t)
  prompt : ∀ a w, ∃ c w', (k a).turn w = (.inl c, w')

/-- What the first part of a job that has its turn comes to in it. -/
inductive TurnOf (kind : Process σ α → Prop) (p : Process σ α) (k : α → JobBody σ)
    (start m : Machine σ) (job : Nat) (body : JobBody σ) : Prop
  | paused (rest : Process σ α) (is : kind rest) (next : Nat → Process σ α) (w : World σ)
    (turn : rest.turn (m.world job) = (.inr next, w)) (pause : Pause σ)
    (unended : ∀ c, pause ≠ .ended c) (advance : body.advance (m.world job) = (pause, w))
    (come : ∀ result, p.replay (start.turns job) = some result →
      ∃ t ws, (next t).replay ws = some result)
  | ended (rest : Process σ α) (is : kind rest) (a : α) (w w' : World σ) (c : Conclusion)
    (turn : rest.turn (m.world job) = (.inl a, w)) (last : (k a).turn w = (.inl c, w'))
    (advance : body.advance (m.world job) = (.ended c, w'))
    (come : p.replay (start.turns job) = some (a, w))

namespace Opens

variable {rest : List Nat} {body : JobBody σ}

theorem slot_polled (opens : Opens kind p k start job) (polls : m.Polls job rest body)
    {result : Option (α × World σ)} {ws : List (World σ)}
    (before : Slot.Rest kind k result (m.world job :: ws) (.queued body)) :
    (slotAfter m.clock (body.advance (m.world job)).1).Rest kind k result ws := by
  cases before with
  | queued p is comes =>
    rcases turn : p.turn (m.world job) with ⟨a | next, w⟩
    · obtain ⟨c, w', last⟩ := opens.prompt a w
      have whole := (Process.turn_andThen_of_inl (k := k) turn).trans last
      obtain ⟨c', _, eq, advance⟩ | ⟨_, _, eq, _⟩ :=
        Process.advance_of_turn (Process.andThen k p) (m.world job)
      · rw [advance]
        exact .spent
      · rw [whole] at eq
        cases eq
    · rw [Process.replay_of_inr turn] at comes
      have whole := Process.turn_andThen_of_inr (k := k) turn
      have keeps := opens.keeps p _ next w is turn
      obtain ⟨_, _, eq, _⟩ | ⟨next', _, eq, _, ⟨millis, pause⟩ | pause⟩ :=
        Process.advance_of_turn (Process.andThen k p) (m.world job)
      · rw [whole] at eq
        cases eq
      · rw [whole] at eq
        cases eq
        rw [pause]
        exact .asleep _ next keeps comes
      · rw [whole] at eq
        cases eq
        rw [pause]
        exact .awaiting next keeps comes

/-- All along a run the job's slot holds the rest of its first part. -/
theorem rest_of_comes (opens : Opens kind p k start job) (kept : Kept deps start)
    (comes : Comes start m) {slot : Slot σ} (found : m.slots[job]? = some slot) :
    slot.Rest kind k (p.replay (start.turns job)) (m.turns job) := by
  -- By induction on the steps: the slot before a step tells what the turns to come make of the
  -- process, and the step uses up the first of them just if the job runs in it.
  induction comes generalizing slot with
  | refl =>
    rw [opens.slot, Option.some.injEq] at found
    subst found
    exact .fresh p opens.is rfl
  | @tail m m' comes step ih =>
    have kept' : Kept deps m' := kept.reaches (.trans (Comes.reaches comes) (reaches_step step))
    have time (body : JobBody σ) (queued : slot = .queued body) :
        ∀ w ∈ (m'.turns job).head?, w.clock = m'.clock :=
      kept'.turn_clock (queued ▸ found)
    have inRange : job < m.slots.length := by
      have inRange := (List.getElem?_eq_some_iff.mp found).1
      rwa [(reaches_step step).length] at inRange
    have before := ih (List.getElem?_eq_getElem inRange)
    rw [turns_step step] at before
    rcases step_stirs step with ⟨stirs, _, noTurn⟩ | ⟨other, rest, body, resting, polls, stirs⟩
    · rw [noTurn job] at before
      obtain ⟨new, there, stirred⟩ := stirs.slots job _ (List.getElem?_eq_getElem inRange)
      rw [found, Option.some.injEq] at there
      subst there
      exact before.stirred stirred time
    · rw [← stirs.time] at stirs
      by_cases same : job = other
      · subst same
        rw [polls.turn? resting] at before
        have now := polls.slot
        rw [List.getElem?_eq_getElem inRange, Option.some.injEq] at now
        rw [now] at before
        obtain ⟨new, there, stirred⟩ := stirs.slots job _
          (slot_set_self polls.slot (m.ranOn_slots job rest body))
        rw [found, Option.some.injEq] at there
        subst there
        exact (opens.slot_polled polls before).stirred stirred time
      · rw [polls.turn?_ne same] at before
        obtain ⟨new, there, stirred⟩ := stirs.slots job _
          ((slot_set_ne (m.ranOn_slots other rest body) same).trans
            (List.getElem?_eq_getElem inRange))
        rw [found, Option.some.injEq] at there
        subst there
        exact before.stirred stirred time

/-- At each turn of the job its first part pauses, or it comes to its result and the job ends. -/
theorem played (opens : Opens kind p k start job) (kept : Kept deps start) (comes : Comes start m)
    (resting : m.busy = false) (polls : m.Polls job rest body) :
    TurnOf kind p k start m job body := by
  have turns : ∃ ws, m.turns job = m.world job :: ws := by
    obtain ⟨m', step, _⟩ := step_of_polls resting polls
    rw [turns_step step, polls.turn? resting]
    exact ⟨_, rfl⟩
  obtain ⟨ws, turns⟩ := turns
  have now := opens.rest_of_comes kept comes polls.slot
  cases now with
  | queued q is come =>
    rcases turn : q.turn (m.world job) with ⟨a | next, w⟩
    · obtain ⟨c, w', last⟩ := opens.prompt a w
      have whole := (Process.turn_andThen_of_inl (k := k) turn).trans last
      obtain ⟨c', _, eq, advance⟩ | ⟨_, _, eq, _⟩ :=
        Process.advance_of_turn (Process.andThen k q) (m.world job)
      · rw [whole] at eq
        cases eq
        refine .ended q is a w _ c turn last advance ?_
        rw [← come, turns, Process.replay_of_inl turn]
      · rw [whole] at eq
        cases eq
    · have whole := Process.turn_andThen_of_inr (k := k) turn
      obtain ⟨_, _, eq, _⟩ | ⟨next', w', eq, world, pause⟩ :=
        Process.advance_of_turn (Process.andThen k q) (m.world job)
      · rw [whole] at eq
        cases eq
      · rw [whole] at eq
        cases eq
        refine .paused q is next w turn _ (fun c ended => ?_) (Prod.ext rfl world)
          fun result comes => ?_
        · rcases pause with ⟨_, pause⟩ | pause <;> cases pause.symm.trans ended
        · rw [← come, turns, Process.replay_of_inr turn] at comes
          obtain ⟨woken, _, comes⟩ := Option.bind_eq_some_iff.mp comes
          exact ⟨woken.clock, ws, comes⟩

/-- A job that has ended came to the end of its first part in that moment. -/
theorem ended (opens : Opens kind p k start job) (kept : Kept deps start) {c : Conclusion}
    (ends : start.EndsWith job c) :
    ∃ m rest body, Comes start m ∧ m.busy = false ∧ m.Polls job rest body ∧
      ∃ q a w w', kind q ∧ q.turn (m.world job) = (.inl a, w) ∧ (k a).turn w = (.inl c, w') ∧
        body.advance (m.world job) = (.ended c, w') ∧
        p.replay (start.turns job) = some (a, w) := by
  obtain ⟨m, rest, body, comes, resting, polls, ended⟩ := ends
  refine ⟨m, rest, body, comes, resting, polls, ?_⟩
  cases opens.played kept comes resting polls with
  | paused _ _ _ _ _ _ unended advance =>
    rw [advance] at ended
    exact absurd ended (unended c)
  | ended q is a w w' c' turn last advance come =>
    rw [advance] at ended
    cases ended
    exact ⟨q, a, w, w', is, turn, last, advance, come⟩

end Opens

/-- What a body sees at its turns, it sees in the course of the run. -/
theorem mem_turns {w : World σ} (mem : w ∈ start.turns job) :
    ∃ m rest body, Comes start m ∧ m.busy = false ∧ m.Polls job rest body := by
  induction start using run.induct with
  | case1 m m' step ih =>
    rw [turns_step step, List.mem_append, Option.mem_toList] at mem
    rcases mem with now | later
    · obtain ⟨rest, body, turns⟩ := polls_of_turn? now
      exact ⟨m, rest, body, .refl, turns⟩
    · obtain ⟨last, rest, body, comes, turns⟩ := ih later
      exact ⟨last, rest, body, .head step comes, turns⟩
  | case2 m stop step =>
    rw [turns_stop step, Option.mem_toList] at mem
    obtain ⟨rest, body, turns⟩ := polls_of_turn? mem
    exact ⟨m, rest, body, .refl, turns⟩

/-- A body that never begins has no turn. -/
theorem turns_eq_nil {body : JobBody σ} (fresh : start.slots[job]? = some (.fresh body))
    (unbegun : ∀ m, ¬ start.Begins m job) : start.turns job = [] := by
  refine List.eq_nil_iff_forall_not_mem.mpr fun w mem => ?_
  obtain ⟨m, rest, body, comes, resting, polls⟩ := mem_turns mem
  obtain ⟨m', begins⟩ := polls.begins comes resting fresh
  exact unbegun m' begins

/-- In a run that finished, a job was skipped before its body had a turn, or it has ended. -/
theorem Rests.cases {last : Machine σ} {ends : List (Nat × Conclusion)}
    (rests : Rests deps start last ends) {body : JobBody σ}
    (fresh : start.slots[job]? = some (.fresh body)) :
    ∃ state, last.books.stateOf job = some state ∧
      ((∃ cause, state = .skipped cause ∧ cause ≠ .declined ∧
          last.slots[job]? ≠ some .spent ∧ start.turns job = []) ∨
        ∃ c, start.EndsWith job c ∧ state = c.outcome.state ∧
          last.slots[job]? = some .spent) := by
  have inRange : job < last.books.jobs.length := by
    rw [← rests.kept.length, rests.length]
    exact (List.getElem?_eq_some_iff.mp fresh).1
  have found := Books.stateOf_eq (List.getElem?_eq_getElem inRange)
  refine ⟨_, found, ?_⟩
  have terminal := rests.terminal job _ found
  cases started : last.books.jobs[job].state.wasStarted with
  | true =>
    obtain ⟨c, _, ends, is⟩ := rests.ended found started
    exact .inr ⟨c, ends, is, rests.kept.spent_of_started rests.told found terminal started⟩
  | false =>
    refine .inl ?_
    have turns := turns_eq_nil fresh fun m => rests.unbegun found started
    have unspent : last.slots[job]? ≠ some .spent := by
      intro spent
      have begun := (rests.told.fresh job _ found).mpr (by rw [spent]; nofun)
      rw [started] at begun
      cases begun
    cases state : last.books.jobs[job].state with
    | skipped cause =>
      refine ⟨cause, rfl, ?_, unspent, turns⟩
      rintro rfl
      rw [state] at started
      cases started
    | pending | running =>
      rw [state] at terminal
      cases terminal
    | succeeded | failed =>
      rw [state] at started
      cases started

end Machine

end KeyFlow
