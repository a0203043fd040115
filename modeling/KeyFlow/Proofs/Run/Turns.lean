import KeyFlow.Proofs.Run.History

/-!
The turns of a job: what its body sees each time that it runs on. Time stands still as long as some
body is queued, so a body that was woken has its turn at the time that it was woken with.
-/

namespace KeyFlow

/-- What becomes of a slot, at this time, while its body does not run. -/
inductive Slot.Stirred {σ : Type} (clock : Nat) : Slot σ → Slot σ → Prop
  | same (slot : Slot σ) : Stirred clock slot slot
  | started (body : JobBody σ) : Stirred clock (.fresh body) (.queued body)
  | woken (wakeAt : Nat) (next : Nat → JobBody σ) :
    Stirred clock (.asleep wakeAt next) (.queued (next clock))
  | resumed (next : Nat → JobBody σ) : Stirred clock (.awaiting next) (.queued (next clock))

theorem Slot.Stirred.trans {σ : Type} {clock : Nat} {a b c : Slot σ} (h : Stirred clock a b)
    (h' : Stirred clock b c) : Stirred clock a c := by
  cases h with
  | same => exact h'
  | started | woken | resumed =>
    cases h'
    constructor

namespace Machine

variable {σ : Type} {start m m' : Machine σ} {deps : List (List Nat)} {job : Nat}

/-- What the body of the job sees, if it is its turn. -/
def turn? (m : Machine σ) (job : Nat) : Option (World σ) :=
  match m.slots[job]? with
  | some (.queued _) =>
    if m.busy = false ∧ m.queue.head? = some job then some (m.world job) else none
  | _ => none

/-- What the body of the job sees at each of its turns, from now to the end of the run. -/
def turns (m : Machine σ) (job : Nat) : List (World σ) :=
  (m.turn? job).toList ++
    match _step : m.step with
    | .ok m' => m'.turns job
    | .error _ => []
termination_by m.measure
decreasing_by exact smaller_step _step

theorem turns_step (step : m.step = .ok m') (job : Nat) :
    m.turns job = (m.turn? job).toList ++ m'.turns job := by
  rw [turns]
  split
  · rename_i step'
    rw [step, Except.ok.injEq] at step'
    rw [step']
  · rename_i step'
    rw [step] at step'
    cases step'

theorem turns_stop {stop : Stop σ} (step : m.step = .error stop) (job : Nat) :
    m.turns job = (m.turn? job).toList := by
  rw [turns]
  split
  · rename_i step'
    rw [step] at step'
    cases step'
  · exact List.append_nil _

theorem Polls.turn? {rest : List Nat} {body : JobBody σ} (polls : m.Polls job rest body)
    (resting : m.busy = false) : m.turn? job = some (m.world job) := by
  rw [Machine.turn?, polls.slot, polls.queue]
  exact if_pos ⟨resting, rfl⟩

theorem polls_of_turn? {w : World σ} (has : m.turn? job = some w) :
    ∃ rest body, m.busy = false ∧ m.Polls job rest body := by
  unfold Machine.turn? at has
  split at has
  · rename_i body slot
    rw [Option.ite_none_right_eq_some] at has
    obtain ⟨⟨resting, head⟩, _⟩ := has
    obtain ⟨rest, queue⟩ := List.head?_eq_some_iff.mp head
    exact ⟨rest, body, resting, queue, slot⟩
  · cases has

theorem turn?_eq_none (no : ∀ rest body, m.busy = false → ¬ m.Polls job rest body) :
    m.turn? job = none := by
  refine Option.eq_none_iff_forall_ne_some.mpr fun w has => ?_
  obtain ⟨rest, body, resting, polls⟩ := polls_of_turn? has
  exact no rest body resting polls

theorem Polls.turn?_ne {rest : List Nat} {body : JobBody σ} (polls : m.Polls job rest body)
    {other : Nat} (ne : other ≠ job) : m.turn? other = none := by
  refine turn?_eq_none fun rest' body' _ polls' => ne ?_
  exact (List.cons.inj (polls'.queue.symm.trans polls.queue)).1

/-! ## Slots in a step -/

/-- At this time, no body having run, the slots of the left machine have come to those of the right
one. -/
structure Stirs (clock : Nat) (m m' : Machine σ) : Prop where
  time : m'.clock = clock
  slots : ∀ (i : Nat) slot, m.slots[i]? = some slot →
    ∃ new, m'.slots[i]? = some new ∧ slot.Stirred clock new

theorem Stirs.of_same {clock : Nat} (slots : m'.slots = m.slots) (time : m'.clock = clock) :
    Stirs clock m m' :=
  ⟨time, fun _ slot found => ⟨slot, slots ▸ found, .same slot⟩⟩

theorem Stirs.trans {clock : Nat} {m₁ : Machine σ} (h : Stirs clock m m₁) (h' : Stirs clock m₁ m') :
    Stirs clock m m' := by
  refine ⟨h'.time, fun i slot found => ?_⟩
  obtain ⟨mid, there, first⟩ := h.slots i slot found
  obtain ⟨new, found', second⟩ := h'.slots i mid there
  exact ⟨new, found', first.trans second⟩

theorem stirs_set {clock : Nat} {old new : Slot σ} (found : m.slots[job]? = some old)
    (slots : m'.slots = m.slots.set job new) (stirred : old.Stirred clock new)
    (time : m'.clock = clock) : Stirs clock m m' := by
  refine ⟨time, fun i slot there => ?_⟩
  by_cases same : i = job
  · subst same
    rw [found, Option.some.injEq] at there
    subst there
    exact ⟨new, slot_set_self found slots, stirred⟩
  · exact ⟨slot, (slot_set_ne slots same).trans there, .same slot⟩

theorem stirs_wake (m : Machine σ) (job : Nat) : Stirs m.clock m (m.wake job) := by
  unfold wake
  split
  · rename_i wakeAt next found
    exact stirs_set found rfl (.woken wakeAt next) rfl
  · rename_i next found
    exact stirs_set found rfl (.resumed next) rfl
  · exact .of_same rfl rfl

theorem stirs_wakeAll (jobs : List Nat) (m : Machine σ) :
    Stirs m.clock m (jobs.foldl wake m) := by
  induction jobs generalizing m with
  | nil => exact .of_same rfl rfl
  | cons job jobs ih =>
    have first := stirs_wake m job
    have rest := ih (m.wake job)
    rw [first.time] at rest
    exact first.trans rest

theorem stirs_wakeWaiters (m : Machine σ) : Stirs m.clock m m.wakeWaiters := stirs_wakeAll _ m

theorem stirs_dispatchAll (h : m.dispatchAll = .ok m') : Stirs m.clock m m' := by
  fun_induction dispatchAll m with
  | case1 | case4 => cases h
  | case2 m books next =>
    cases h
    exact .of_same rfl rfl
  | case3 m job books next body slot ih =>
    refine Stirs.trans ?_ (ih h)
    exact stirs_set slot rfl (.started body) rfl
  | case5 m job books next books₁ failed gone ih =>
    refine Stirs.trans ?_ (ih h)
    exact .of_same rfl rfl

theorem stirs_notice (h : m.notice = .ok m') : Stirs m.clock m m' := by
  unfold notice at h
  split at h
  · split at h
    · cases h
    · cases h
      exact .of_same rfl rfl
  · cases h
    exact .of_same rfl rfl

theorem stirs_serve (h : m.serve = .ok m') : Stirs m.clock m m' := by
  unfold serve at h
  split at h
  · cases h
  · split at h
    · rename_i job c rest _
      unfold record at h
      cases recorded : m.books.complete job c.outcome with
      | error f =>
        simp only [recorded] at h
        cases h
      | ok books =>
        simp only [recorded] at h
        cases h
        exact .of_same rfl rfl
    · split at h
      · cases h
      · split at h
        · cases h
          unfold sample
          split <;> exact .of_same rfl rfl
        · split at h
          · cases h
          · cases h
            exact .of_same rfl rfl

theorem stirs_round (h : m.round = .ok m') : Stirs m.clock m m' := by
  unfold round at h
  split at h
  · cases h
  · rename_i m₁ noticed
    split at h
    · cases h
    · rename_i m₂ dispatched
      have first := stirs_notice noticed
      have second := stirs_dispatchAll dispatched
      rw [first.time] at second
      have third := stirs_serve h
      rw [second.time] at third
      exact first.trans (second.trans third)

/-- The bodies that time wakes are woken with the time that it has come to. -/
theorem stirs_advanceClock (h : m.advanceClock = .ok m') : Stirs m'.clock m m' := by
  have reach {time : Nat} (h : m.reach time = .ok m') : Stirs m'.clock m m' := by
    have woken (m₁ : Machine σ) (slots : m₁.slots = m.slots) (h : Stirs m₁.clock m₁ m') :
        Stirs m'.clock m m' := by
      rw [h.time]
      exact Stirs.trans (.of_same slots rfl) h
    unfold Machine.reach at h
    simp only at h
    split at h
    · cases h
    · split at h
      · cases h
        exact woken { m with clock := max m.clock time, cancelAt := none, cancelled := true } rfl
          (stirs_wakeWaiters _)
      · split at h
        · cases h
          exact woken { m with clock := max m.clock time } rfl (stirs_wake _ _)
        · cases h
  unfold advanceClock at h
  split at h
  · cases h
  · split at h
    · split at h
      · cases h
        exact .of_same rfl rfl
      · exact reach h
    · exact reach h

theorem ranOn_clock (m : Machine σ) (job : Nat) (rest : List Nat) (body : JobBody σ) :
    (m.ranOn job rest body).clock = m.clock := by
  rw [ranOn, left]
  cases (body.advance (m.world job)).1 <;> rfl

/-- When a body has run on, others may be woken. -/
theorem stirs_poll {rest : List Nat} {body : JobBody σ} (polls : m.Polls job rest body) :
    Stirs m.clock (m.ranOn job rest body) (poll { m with queue := rest } job) := by
  obtain ⟨jobs, woken⟩ := leave_eq_wakeAll { m with queue := rest } job
    (body.advance (m.world job)).1 (body.advance (m.world job)).2
  have stirs := stirs_wakeAll jobs (m.ranOn job rest body)
  rw [ranOn_clock] at stirs
  rw [poll]
  simp only [polls.slot]
  exact woken ▸ stirs

/-- In a step no body runs, or one does, and then others may be woken. Time passes only when no body
is queued. -/
theorem step_stirs (h : m.step = .ok m') :
    (Stirs m'.clock m m' ∧ (m.queue ≠ [] → m'.clock = m.clock) ∧ ∀ job, m.turn? job = none) ∨
      ∃ job rest body, m.busy = false ∧ m.Polls job rest body ∧
        Stirs m.clock (m.ranOn job rest body) m' := by
  unfold step at h
  split at h
  · rename_i busy
    have stirs := stirs_round h
    refine .inl ⟨stirs.time ▸ stirs, fun _ => stirs.time, fun job => ?_⟩
    refine turn?_eq_none fun _ _ resting _ => ?_
    rw [busy] at resting
    cases resting
  · rename_i resting
    split at h
    · rename_i job rest queue
      cases h
      by_cases turn : ∃ body, m.slots[job]? = some (.queued body)
      · obtain ⟨body, slot⟩ := turn
        exact .inr ⟨job, rest, body, by simpa using resting, ⟨queue, slot⟩,
          stirs_poll ⟨queue, slot⟩⟩
      · rw [not_exists] at turn
        have same : poll { m with queue := rest } job = { m with queue := rest } := by
          unfold poll
          split
          · rename_i body slot
            exact absurd slot (turn body)
          · rfl
        rw [same]
        refine .inl ⟨.of_same rfl rfl, fun _ => rfl, fun other => ?_⟩
        refine turn?_eq_none fun rest' body _ polls => turn body ?_
        rw [(List.cons.inj (queue.symm.trans polls.queue)).1]
        exact polls.slot
    · rename_i queue
      have idle (job : Nat) : m.turn? job = none := by
        refine turn?_eq_none fun rest body _ polls => ?_
        rw [polls.queue] at queue
        cases queue
      split at h
      · have stirs := stirs_round h
        exact .inl ⟨stirs.time ▸ stirs, fun _ => stirs.time, idle⟩
      · exact .inl ⟨stirs_advanceClock h, fun pending => absurd queue pending, idle⟩

/-! ## Turns -/

/-- A queued body has its next turn before time goes on. -/
theorem Kept.turn_clock (kept : Kept deps m) {body : JobBody σ}
    (queued : m.slots[job]? = some (.queued body)) :
    ∀ w ∈ (m.turns job).head?, w.clock = m.clock := by
  -- The induction is on the rest of the run; time stands still as long as a body is queued.
  induction m using run.induct with
  | case1 m m' step ih =>
    intro w first
    rw [turns_step step] at first
    rcases step_stirs step with ⟨stirs, still, noTurn⟩ | ⟨other, rest, body', resting, polls, stirs⟩
    · rw [noTurn job] at first
      obtain ⟨new, found, stirred⟩ := stirs.slots job _ queued
      cases stirred
      rw [ih (kept.reaches (reaches_step step)) found w first]
      exact still (List.ne_nil_of_mem (kept.queue job body queued))
    · by_cases same : job = other
      · subst same
        rw [polls.turn? resting] at first
        rw [← Option.some.inj first]
        rfl
      · rw [polls.turn?_ne same] at first
        obtain ⟨new, found, stirred⟩ :=
          stirs.slots job _ ((slot_set_ne (m.ranOn_slots other rest body') same).trans queued)
        cases stirred
        rw [ih (kept.reaches (reaches_step step)) found w first, stirs.time]
  | case2 m stop step =>
    intro w first
    rw [turns_stop step, Option.head?_toList, turn?, queued, Option.mem_def] at first
    simp only [Option.ite_none_right_eq_some] at first
    rw [← Option.some.inj first.2]
    rfl

end Machine

end KeyFlow
