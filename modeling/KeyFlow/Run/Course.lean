import KeyFlow.Run.Machine

/-!
Every run stops. A step moves some job nearer to its end, or uses up a cancellation, or does some of
the work at hand; so a run is the iteration of its steps, and needs no bound given from outside.
-/

namespace KeyFlow

namespace Machine

variable {σ : Type}

/-- Cancellations that are still to come or to be seen. -/
def flags (m : Machine σ) : Nat :=
  (if m.cancelAt.isSome then 1 else 0) + (if m.seen then 0 else 1)

/-- Work at hand while no job moves. -/
def work (m : Machine σ) : Nat :=
  m.queue.length + 2 * m.conclusions.length + (if m.busy then 1 else 0) +
    4 * (m.horizon.getD 0 - m.clock) + (if m.isTickDue then 2 else 0)

abbrev Measure (σ : Type) : Type := List (Slot σ) × Nat × Nat

def measure (m : Machine σ) : Measure σ := (m.slots, m.flags, m.work)

/-- Lexicographic: the slots first, then the cancellations, then the work at hand. -/
def Smaller : Measure σ → Measure σ → Prop :=
  Prod.Lex Advanced (Prod.Lex (· < ·) (· < ·))

theorem smaller_wf : WellFounded (Smaller : Measure σ → Measure σ → Prop) :=
  (Prod.lex ⟨_, advanced_wf⟩ (Prod.lex Nat.lt_wfRel Nat.lt_wfRel)).wf

private theorem smaller_of_advanced {m m' : Machine σ} (h : Advanced m'.slots m.slots) :
    Smaller m'.measure m.measure := Prod.Lex.left _ _ h

private theorem smaller_of_flags {m m' : Machine σ} (slots : m'.slots = m.slots)
    (h : m'.flags < m.flags) : Smaller m'.measure m.measure := by
  unfold measure
  rw [slots]
  exact Prod.Lex.right _ (Prod.Lex.left _ _ h)

private theorem smaller_of_work {m m' : Machine σ} (slots : m'.slots = m.slots)
    (flags : m'.flags = m.flags) (h : m'.work < m.work) : Smaller m'.measure m.measure := by
  unfold measure
  rw [slots, flags]
  exact Prod.Lex.right _ (Prod.Lex.right _ h)

/-! ## Bodies -/

private theorem advanced_set {slots : List (Slot σ)} {job : Nat} {old new : Slot σ}
    (h : slots[job]? = some old) (moved : Slot.Moved new old) :
    Advanced (slots.set job new) slots := .single (OneBelow.set h moved)

private theorem wake_slots (m : Machine σ) (job : Nat) :
    (m.wake job).slots = m.slots ∨ Advanced (m.wake job).slots m.slots := by
  unfold wake
  split
  · rename_i found
    exact .inr (advanced_set found (.woke ..))
  · rename_i found
    exact .inr (advanced_set found (.resumed ..))
  · exact .inl rfl

private theorem wakeAll_slots (jobs : List Nat) (m : Machine σ) :
    (jobs.foldl wake m).slots = m.slots ∨ Advanced (jobs.foldl wake m).slots m.slots := by
  induction jobs generalizing m with
  | nil => exact .inl rfl
  | cons job jobs ih =>
    rcases ih (m.wake job) with rest | rest <;> rcases wake_slots m job with first | first
    · exact .inl (rest.trans first)
    · exact .inr (by rw [List.foldl_cons, rest]; exact first)
    · exact .inr (by rw [List.foldl_cons, ← first]; exact rest)
    · exact .inr (.trans rest first)

private theorem wake_flags (m : Machine σ) (job : Nat) :
    (m.wake job).cancelAt = m.cancelAt ∧ (m.wake job).seen = m.seen := by
  unfold wake
  split <;> exact ⟨rfl, rfl⟩

private theorem wakeAll_flags (jobs : List Nat) (m : Machine σ) :
    (jobs.foldl wake m).cancelAt = m.cancelAt ∧ (jobs.foldl wake m).seen = m.seen := by
  induction jobs generalizing m with
  | nil => exact ⟨rfl, rfl⟩
  | cons job jobs ih =>
    exact ⟨(ih _).1.trans (wake_flags m job).1, (ih _).2.trans (wake_flags m job).2⟩

private theorem conclude_slots (m : Machine σ) (job : Nat) (pause : Pause σ) :
    (m.conclude job pause).slots = m.slots := by
  unfold conclude
  split <;> rfl

theorem moved_slotAfter (body : JobBody σ) (w : World σ) (clock : Nat) :
    Slot.Moved (slotAfter clock (body.advance w).1) (.queued body) := by
  unfold slotAfter
  split
  · exact .ended _
  · rename_i millis next paused
    exact .slept _ w millis _ _ paused
  · rename_i next paused
    exact .waits _ w _ paused

private theorem leave_slots (m : Machine σ) (job : Nat) (body : JobBody σ) (w : World σ)
    (h : m.slots[job]? = some (.queued body)) :
    Advanced (m.leave job (body.advance w).1 (body.advance w).2).slots m.slots := by
  have first := advanced_set h (moved_slotAfter body w m.clock)
  unfold leave
  simp only
  rw [conclude_slots]
  split
  · unfold wakeWaiters
    rcases wakeAll_slots _ _ with same | more
    · rw [same]
      exact first
    · exact .trans more first
  · exact first

private theorem smaller_poll {m : Machine σ} {job : Nat} {rest : List Nat}
    (h : m.queue = job :: rest) :
    Smaller (poll { m with queue := rest } job).measure m.measure := by
  unfold poll
  split
  · rename_i body found
    exact smaller_of_advanced (leave_slots { m with queue := rest } job body _ found)
  · refine @smaller_of_work σ m { m with queue := rest } rfl rfl ?_
    simp only [work, h, List.length_cons]
    rw [show horizon { m with queue := rest } = m.horizon from rfl,
      show isTickDue { m with queue := rest } = m.isTickDue from rfl]
    omega

/-! ## The scheduler's turn -/

private theorem notice_cases {m m' : Machine σ} (h : m.notice = .ok m') :
    (m' = m ∧ (m.cancelled && !m.seen) = false) ∨
      (m'.slots = m.slots ∧ m'.flags < m.flags) := by
  unfold notice at h
  split at h
  · rename_i unseen
    split at h
    · cases h
    · cases h
      refine .inr ⟨rfl, ?_⟩
      simp only [Bool.and_eq_true, Bool.not_eq_true'] at unseen
      simp [flags, unseen.2]
  · rename_i known
    cases h
    exact .inl ⟨rfl, by simpa using known⟩

private theorem dispatchAll_cases {m m' : Machine σ} (h : m.dispatchAll = .ok m') :
    (Advanced m'.slots m.slots) ∨ ∃ books, m' = { m with books } := by
  fun_induction dispatchAll m with
  | case1 => cases h
  | case2 m books => cases h; exact .inr ⟨_, rfl⟩
  | case3 m job books next body found ih =>
    have first := advanced_set found (Slot.Moved.start body)
    rcases ih h with more | ⟨books', rfl⟩
    · exact .inl (.trans more first)
    · exact .inl first
  | case4 => cases h
  | case5 m job books next books₁ failed gone ih =>
    rcases ih h with more | ⟨books₂, rfl⟩
    · exact .inl more
    · exact .inr ⟨books₂, rfl⟩

private theorem record_cases {m m' : Machine σ} {job : Nat} {c : Conclusion}
    (h : m.record job c = .ok m') :
    ∃ books errors timeline, m' = { m with books, errors, timeline } := by
  unfold record at h
  split at h
  · cases h
  · cases h
    exact ⟨_, _, _, rfl⟩

/-- Only a scheduler that was asked for nothing has done nothing. -/
private theorem serve_cases {m m' : Machine σ} (h : m.serve = .ok m') :
    m'.slots = m.slots ∧ m'.flags = m.flags ∧
      (m'.work < m.work ∨
        (m.busy = false ∧ m.conclusions.isEmpty = true ∧ m.isTickDue = false)) := by
  unfold serve at h
  split at h
  · cases h
  · split at h
    · rename_i job c rest waiting
      split at h
      · cases h
      · rename_i m₁ recorded
        cases h
        obtain ⟨books, errors, timeline, rfl⟩ := record_cases recorded
        refine ⟨rfl, rfl, .inl ?_⟩
        let next := { { m with conclusions := rest, busy := true } with books, errors, timeline }
        have ahead : next.horizon = m.horizon := rfl
        have due : next.isTickDue = m.isTickDue := rfl
        rw [work, work, ahead, due, waiting, List.length_cons]
        simp only [ite_true]
        omega
    · rename_i noConclusions
      split at h
      · cases h
      · split at h
        · rename_i due
          cases h
          cases s : m.sampling with
          | none => simp [isTickDue, s] at due
          | some smp =>
            refine ⟨by simp [sample, s], by simp [sample, s, flags], .inl ?_⟩
            have pos := smp.period_pos
            have late : ¬ m.clock + smp.period ≤ m.clock := by omega
            have due' : smp.due ≤ m.clock := by simpa [isTickDue, s] using due
            simp only [work, sample, horizon, isTickDue, s, noConclusions, late, due', decide_true,
              decide_false, ite_true, Bool.false_eq_true, ite_false, List.length_nil]
            split <;> omega
        · rename_i notDue
          split at h
          · cases h
          · cases h
            refine ⟨rfl, rfl, ?_⟩
            cases b : m.busy with
            | true =>
              refine .inl ?_
              have ahead : horizon { m with busy := false } = m.horizon := rfl
              have due : isTickDue { m with busy := false } = m.isTickDue := rfl
              rw [work, work, ahead, due, b]
              simp only [ite_true, Bool.false_eq_true, ite_false]
              omega
            | false => exact .inr ⟨rfl, by simp [noConclusions], by simpa using notDue⟩

private theorem smaller_round {m m' : Machine σ} (h : m.round = .ok m')
    (asked : m.busy = true ∨ m.hasNews = true) : Smaller m'.measure m.measure := by
  unfold round at h
  split at h
  · cases h
  · rename_i m₁ noticed
    split at h
    · cases h
    · rename_i m₂ dispatched
      obtain ⟨slots, flags, did⟩ := serve_cases h
      rcases notice_cases noticed with ⟨rfl, known⟩ | ⟨sameSlots, lessFlags⟩
      · rcases dispatchAll_cases dispatched with moved | ⟨books, rfl⟩
        · exact smaller_of_advanced (slots ▸ moved)
        · rcases did with less | ⟨idle, nothing, notDue⟩
          · exact smaller_of_work slots flags less
          · rcases asked with busy | news
            · simp [busy] at idle
            · simp only at nothing
              have notDue' : m₁.isTickDue = false := notDue
              simp [hasNews, known, nothing, notDue'] at news
      · rcases dispatchAll_cases dispatched with moved | ⟨books, rfl⟩
        · exact smaller_of_advanced (by rw [slots, ← sameSlots]; exact moved)
        · exact smaller_of_flags (slots.trans sameSlots) (by rw [flags]; exact lessFlags)

/-! ## The clock -/

private theorem wake_sleeper {m : Machine σ} {time job : Nat} (h : m.sleeper? time = some job) :
    Advanced (m.wake job).slots m.slots := by
  obtain ⟨inRange, sleeps, _⟩ := List.findIdx?_eq_some_iff_getElem.mp h
  unfold wake
  split
  · rename_i found
    exact advanced_set found (.woke ..)
  · rename_i found
    exact advanced_set found (.resumed ..)
  · rename_i neither _
    exfalso
    cases slot : m.slots[job] with
    | asleep wakeAt next =>
      exact neither wakeAt next (by rw [List.getElem?_eq_getElem inRange, slot])
    | _ => simp [slot, wakeTime?] at sleeps

private theorem smaller_reach {m m' : Machine σ} {time : Nat} (h : m.reach time = .ok m') :
    Smaller m'.measure m.measure := by
  unfold reach at h
  simp only at h
  split at h
  · cases h
  · split at h
    · rename_i arrives
      cases h
      have less : ∀ m₁ : Machine σ, m₁.cancelAt = none → m₁.seen = m.seen →
          m₁.flags < m.flags := by
        intro m₁ planned seen
        simp [flags, planned, seen, arrives]
      unfold wakeWaiters
      rcases wakeAll_slots _ _ with same | more
      · have fl := wakeAll_flags (σ := σ)
        exact smaller_of_flags same (less _ (fl _ _).1 (fl _ _).2)
      · exact smaller_of_advanced more
    · split at h
      · rename_i job found
        cases h
        exact smaller_of_advanced (wake_sleeper found)
      · cases h

private theorem smaller_advanceClock {m m' : Machine σ} (h : m.advanceClock = .ok m')
    (notDue : m.isTickDue = false) : Smaller m'.measure m.measure := by
  unfold advanceClock at h
  split at h
  · cases h
  · rename_i time future
    split at h
    · rename_i s sampled
      split at h
      · rename_i earlier
        cases h
        have ahead : m.clock < s.due := by simpa [isTickDue, sampled] using notDue
        refine @smaller_of_work σ m { m with clock := max m.clock s.due } rfl rfl ?_
        have same : horizon { m with clock := max m.clock s.due } = m.horizon := rfl
        rw [work, work, same, future, notDue]
        generalize isTickDue { m with clock := max m.clock s.due } = due
        cases due <;> simp only [Option.getD_some, Bool.false_eq_true, ite_false, ite_true] <;>
          omega
      · exact smaller_reach h
    · exact smaller_reach h

/-! ## Runs -/

theorem smaller_step {m m' : Machine σ} (h : m.step = .ok m') :
    Smaller m'.measure m.measure := by
  unfold step at h
  split at h
  · rename_i busy
    exact smaller_round h (.inl busy)
  · split at h
    · rename_i job rest queued
      cases h
      exact smaller_poll queued
    · split at h
      · rename_i news
        exact smaller_round h (.inr news)
      · rename_i quiet
        apply smaller_advanceClock h
        simp only [hasNews, Bool.or_eq_true, not_or, Bool.not_eq_true] at quiet
        exact quiet.2

instance : WellFoundedRelation (Measure σ) := ⟨Smaller, smaller_wf⟩

/-- Takes steps until the run stops. -/
def run (m : Machine σ) : Stop σ :=
  match _step : m.step with
  | .ok m => m.run
  | .error stop => stop
termination_by m.measure
decreasing_by exact smaller_step _step

end Machine

end KeyFlow
