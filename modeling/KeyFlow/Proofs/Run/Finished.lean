import KeyFlow.Proofs.Run.Idle

/-!
A run in which nobody loses patience or waits for a cancellation finishes. Its steps cannot go on
for ever, and the step that stops it is one of a scheduler whose books are finished: as long as they
are not, some body runs, sleeps, or has ended.
-/

namespace KeyFlow

namespace Machine

variable {σ : Type} {m m' : Machine σ} {deps : List (List Nat)}

/-- The caller has time, and no body waits for a cancellation. -/
structure Moving (m : Machine σ) : Prop where
  deadline : m.deadline = none
  awake : ∀ (i : Nat) (next : Nat → JobBody σ), m.slots[i]? ≠ some (.awaiting next)

theorem Kept.serve_error (kept : Kept deps m) {stop : Stop σ}
    (waits : m.books.isFinished = true ∨ m.conclusions ≠ [] ∨ m.tokens ≠ [])
    (h : m.serve = .error stop) :
    (stop = .finished m ∧ m.books.isFinished = true) ∨
      (stop = .timedOut m ∧ m.isOverdue = true) := by
  unfold serve at h
  split at h
  · rename_i finished
    cases h
    exact .inl ⟨rfl, finished⟩
  · rename_i unfinished
    split at h
    · rename_i job c rest conclusions
      obtain ⟨books, complete, _⟩ :=
        Books.complete_ok kept.sound (kept.running_head conclusions) c.outcome
      rw [record, complete] at h
      cases h
    · rename_i noConclusions
      split at h
      · rename_i nobody
        rcases waits with finished | concluded | alive
        · exact absurd finished unfinished
        · exact absurd noConclusions concluded
        · exact absurd (List.isEmpty_iff.mp nobody) alive
      · split at h
        · cases h
        · split at h
          · rename_i overdue
            cases h
            exact .inr ⟨rfl, overdue⟩
          · cases h

theorem Kept.round_error (kept : Kept deps m) {stop : Stop σ} (h : m.round = .error stop) :
    ∃ m', Quietly m m' ∧ ((stop = .finished m' ∧ m'.books.isFinished = true) ∨
      (stop = .timedOut m' ∧ m'.isOverdue = true)) := by
  obtain ⟨m₁, m₂, noticed, dispatched, kept₂, waits⟩ := kept.never_stuck
  obtain ⟨m₃, books, quietly, noConclusions, rfl⟩ := quietly_dispatchAll dispatched
  rw [round, noticed] at h
  simp only [dispatched] at h
  exact ⟨_, .trans (quietly_notice noticed) (.trans quietly (.single (.waited noConclusions))),
    kept₂.serve_error waits h⟩

theorem advanceClock_error {stop : Stop σ} (h : m.advanceClock = .error stop) :
    ∃ m', stop = .stalled m' ∨ stop = .timedOut m' := by
  have reach {time : Nat} (h : m.reach time = .error stop) :
      ∃ m', stop = .stalled m' ∨ stop = .timedOut m' := by
    unfold Machine.reach at h
    simp only at h
    split at h
    · cases h
      exact ⟨_, .inr rfl⟩
    · split at h
      · cases h
      · split at h
        · cases h
        · cases h
          exact ⟨_, .inl rfl⟩
  unfold advanceClock at h
  split at h
  · cases h
    exact ⟨_, .inl rfl⟩
  · split at h
    · split at h
      · cases h
      · exact reach h
    · exact reach h

/-- A step that stops a run finishes it with finished books, or the run stalls, or the caller has
lost patience. -/
theorem Kept.step_stops (kept : Kept deps m) {stop : Stop σ} (h : m.step = .error stop) :
    (∃ m', Quietly m m' ∧ stop = .finished m' ∧ m'.books.isFinished = true) ∨
      ∃ m', stop = .stalled m' ∨ stop = .timedOut m' := by
  have round (h : m.round = .error stop) :
      (∃ m', Quietly m m' ∧ stop = .finished m' ∧ m'.books.isFinished = true) ∨
        ∃ m', stop = .stalled m' ∨ stop = .timedOut m' := by
    obtain ⟨m', quietly, ⟨is, finished⟩ | ⟨late, _⟩⟩ := kept.round_error h
    · exact .inl ⟨m', quietly, is, finished⟩
    · exact .inr ⟨m', .inr late⟩
  unfold step at h
  split at h
  · exact round h
  · split at h
    · cases h
    · split at h
      · exact round h
      · exact .inr (advanceClock_error h)

/-- A run that finishes does so with finished books. -/
theorem Kept.step_finished (kept : Kept deps m) (h : m.step = .error (.finished m')) :
    Quietly m m' ∧ m'.books.isFinished = true := by
  rcases kept.step_stops h with ⟨m₁, quietly, is, finished⟩ | ⟨_, no | no⟩
  · cases is
    exact ⟨quietly, finished⟩
  · cases no
  · cases no

/-- Some job sleeps when all is quiet. -/
theorem Kept.asleep (kept : Kept deps m) (moving : m.Moving) (resting : m.busy = false)
    (queue : m.queue = []) (conclusions : m.conclusions = []) :
    ∃ (i wakeAt : Nat) (next : Nat → JobBody σ), m.slots[i]? = some (.asleep wakeAt next) := by
  have alive := (kept.awake resting).resolve_right fun concluded => concluded conclusions
  obtain ⟨i, token⟩ := List.exists_mem_of_ne_nil _ alive
  have live := (kept.tokens i).mp token
  rw [isLive, Option.any_eq_true] at live
  obtain ⟨slot, found, live⟩ := live
  cases slot with
  | fresh | spent => cases live
  | queued body =>
    have mem := kept.queue i body found
    rw [queue] at mem
    cases mem
  | asleep wakeAt next => exact ⟨i, wakeAt, next, found⟩
  | awaiting next => exact absurd found (moving.awake i next)

theorem advanceClock_ok (moving : m.Moving) {i wakeAt : Nat} {next : Nat → JobBody σ}
    (asleep : m.slots[i]? = some (.asleep wakeAt next)) : ∃ m', m.advanceClock = .ok m' := by
  have times : m.horizon = (m.slots.filterMap wakeTime? ++ m.cancelAt.toList).min? := by
    rw [horizon, moving.deadline, Option.toList_none, List.append_nil]
  have wakes : wakeAt ∈ m.slots.filterMap wakeTime? :=
    List.mem_filterMap.mpr ⟨_, List.mem_of_getElem? asleep, rfl⟩
  obtain ⟨time, first⟩ := Option.isSome_iff_exists.mp
    (List.isSome_min?_of_mem (List.mem_append_left m.cancelAt.toList wakes))
  have reach : ∃ m', m.reach time = .ok m' := by
    unfold Machine.reach
    simp only
    rw [if_neg (by simp [moving.deadline])]
    by_cases planned : m.cancelAt = some time
    · exact ⟨_, by rw [if_pos planned]⟩
    · rw [if_neg planned]
      have mem := (List.mem_append.mp (List.min?_mem first)).resolve_right fun mem =>
        planned (Option.mem_toList.mp mem)
      obtain ⟨slot, mem, wakes⟩ := List.mem_filterMap.mp mem
      have sleeper : (sleeper? { m with clock := max m.clock time } time).isSome = true := by
        rw [sleeper?, List.findIdx?_isSome, List.any_eq_true]
        exact ⟨slot, mem, by simp [wakes]⟩
      obtain ⟨job, found⟩ := Option.isSome_iff_exists.mp sleeper
      exact ⟨_, by rw [found]⟩
  rw [advanceClock, times, first]
  simp only
  split
  · split
    · exact ⟨_, rfl⟩
    · exact reach
  · exact reach

theorem Kept.step_error (kept : Kept deps m) (moving : ∀ m', Reaches m m' → m'.Moving)
    {stop : Stop σ} (h : m.step = .error stop) :
    ∃ m', Reaches m m' ∧ stop = .finished m' ∧ m'.books.isFinished = true := by
  have round (h : m.round = .error stop) :
      ∃ m', Reaches m m' ∧ stop = .finished m' ∧ m'.books.isFinished = true := by
    obtain ⟨m', quietly, ⟨same, finished⟩ | ⟨_, overdue⟩⟩ := kept.round_error h
    · exact ⟨m', quietly.reaches, same, finished⟩
    · rw [isOverdue, (moving m' quietly.reaches).deadline] at overdue
      cases overdue
  unfold step at h
  split at h
  · exact round h
  · rename_i resting
    split at h
    · cases h
    · rename_i queue
      split at h
      · exact round h
      · rename_i quiet
        rw [hasNews, Bool.or_eq_true, Bool.or_eq_true, not_or, not_or] at quiet
        have conclusions : m.conclusions = [] := by simpa using quiet.1.2
        obtain ⟨i, wakeAt, next, asleep⟩ :=
          kept.asleep (moving m (.refl m)) (by simpa using resting) queue conclusions
        obtain ⟨m', advanced⟩ := advanceClock_ok (moving m (.refl m)) asleep
        rw [advanced] at h
        cases h

/-- The induction is on what is left of the run, which every step lowers. -/
theorem Kept.run_finished (kept : Kept deps m) (moving : ∀ m', Reaches m m' → m'.Moving) :
    ∃ m', m.run = .finished m' ∧ Reaches m m' ∧ m'.books.isFinished = true := by
  fun_induction run m with
  | case1 m m₁ step ih =>
    have reached := reaches_step step
    obtain ⟨m', run, rest, finished⟩ :=
      ih (kept.reaches reached) fun m' rest => moving m' (.trans reached rest)
    exact ⟨m', run, .trans reached rest, finished⟩
  | case2 m stop step =>
    obtain ⟨m', reached, rfl, finished⟩ := kept.step_error moving step
    exact ⟨m', rfl, reached, finished⟩

end Machine

end KeyFlow
