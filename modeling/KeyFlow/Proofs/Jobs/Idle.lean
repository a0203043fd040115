import KeyFlow.Proofs.Jobs.Dispatch

/-!
Sound books in which nothing runs and nothing starts are finished. A pending job either stands in
the queue or waits for an earlier job that is itself not at an end, so the first one that is left
would have to run or to start.
-/

namespace KeyFlow

namespace Books

variable {deps : List (List Nat)} {b b' : Books}

/-- Books that no worker works on are not full. -/
theorem not_isFull_of_idle (idle : b.running = 0) : b.isFull = false := by
  unfold isFull
  split
  · rename_i n _
    have := n.2
    rw [idle]
    simp
    omega
  · rfl

theorem Sound.ne_running_of_idle (sound : Sound deps b) (idle : b.running = 0) {i : Nat} :
    b.stateOf i ≠ some .running := by
  intro running
  have noNext := sound.running
  rw [idle, eq_comm, List.count_eq_zero] at noNext
  exact noNext (List.mem_of_getElem? ((getElem?_states b i).trans running))

/-- A pending job of open books that is not in the queue waits for an earlier job. -/
theorem Sound.waits (sound : Sound deps b) (unhalted : b.halted = none) {c : Nat} {e : Entry}
    (found : b.jobs[c]? = some e) (pending : e.state = .pending) (away : c ∉ b.ready) :
    ∃ i < c, ∃ x, b.jobs[i]? = some x ∧ x.state.isTerminal = false := by
  have waiting : e.outstanding ≠ 0 := fun noNext =>
    away ((sound.lined.mem_iff c).mpr ⟨e, found, pending, noNext⟩)
  rw [sound.tied.outstanding c e found] at waiting
  obtain ⟨i, x, foundx, mem⟩ := mem_consumers_of_places (Nat.pos_of_ne_zero waiting)
  have live : x.state.isTerminal = false := by
    by_contra ended
    rw [sound.tied.closed unhalted i x foundx (by simpa using ended)] at mem
    cases mem
  obtain ⟨_, lt, _⟩ := sound.tied.behind foundx live mem
  exact ⟨i, lt, x, foundx, live⟩

/-- Where nothing runs and nothing can start, every job is at an end. The induction is on the
index, for a job waits for earlier ones only. -/
theorem Sound.ended_of_idle (sound : Sound deps b) (idle : b.running = 0) (shut : b.IsShut)
    (c : Nat) {s : JobState} (state : b.stateOf c = some s) : s.isTerminal = true := by
  induction c using Nat.strongRecOn generalizing s with
  | ind c ih =>
    obtain ⟨e, found, rfl⟩ := entry_of_stateOf state
    cases is : e.state with
    | succeeded | failed | skipped => rfl
    | running => exact absurd (is ▸ state) (sound.ne_running_of_idle idle)
    | pending =>
      have unhalted : b.halted = none := by
        by_contra closed
        exact sound.tied.stopped (Option.isSome_iff_ne_none.mpr closed) c e found is
      have empty : b.ready = [] := by
        rcases shut with closed | full | empty
        · rw [unhalted] at closed
          cases closed
        · rw [not_isFull_of_idle idle] at full
          cases full
        · exact empty
      obtain ⟨i, lt, x, foundx, live⟩ :=
        sound.waits unhalted found is (by rw [empty]; exact List.not_mem_nil)
      rw [ih i lt (stateOf_eq foundx)] at live
      cases live

theorem Sound.finished_of_ended (sound : Sound deps b)
    (ended : ∀ s ∈ b.states, s.isTerminal = true) : b.isFinished = true := by
  rw [isFinished, sound.unfinished, beq_iff_eq, List.countP_eq_zero]
  intro s mem
  rw [ended s mem]
  decide

/-- When the books have no next job although nothing runs, they are finished. -/
theorem finished_of_idle (sound : Sound deps b) (noNext : b.nextDispatch = .ok (none, b'))
    (idle : b'.running = 0) :
    (∀ s ∈ b'.states, s.isTerminal = true) ∧ b'.isFinished = true := by
  have answered := sound.answered noNext
  have ended : ∀ s ∈ b'.states, s.isTerminal = true := by
    intro s mem
    obtain ⟨c, state⟩ := List.mem_iff_getElem?.mp mem
    rw [getElem?_states] at state
    exact answered.sound.ended_of_idle idle (answered.shut rfl) c state
  exact ⟨ended, answered.sound.finished_of_ended ended⟩

theorem ready_of_takeReady (noNext : b.takeReady = .ok (none, b')) : b'.ready = [] := by
  fun_induction takeReady b with
  | case1 b empty =>
    cases noNext
    exact empty
  | case2 | case3 | case4 => cases noNext
  | case5 _ _ _ _ _ _ _ _ _ _ ih => exact ih noNext

/-- Books without a next job stay without one, as long as nothing is entered in them. -/
theorem nextDispatch_again (noNext : b.nextDispatch = .ok (none, b')) :
    b'.nextDispatch = .ok (none, b') := by
  rw [nextDispatch] at noNext
  split at noNext
  · rename_i shut
    cases noNext
    rw [nextDispatch, if_pos shut]
  · rw [nextDispatch]
    split
    · rfl
    · have empty := ready_of_takeReady noNext
      rw [takeReady]
      split
      · rfl
      · rename_i waiting
        rw [empty] at waiting
        cases waiting

end Books

end KeyFlow
