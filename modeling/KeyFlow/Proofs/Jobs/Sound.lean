import KeyFlow.Proofs.Jobs.Add
import KeyFlow.Proofs.Jobs.Finish

/-!
The whole invariant of the books: entries tied to the dependencies, a queue of just the jobs that
may start, and counts that add up. Every operation keeps it, never meets a fault, and moves the
states of jobs only as told here.
-/

namespace KeyFlow

namespace Books

/-- The books hold jobs that were added with these dependencies, and all their parts agree. -/
structure Sound (deps : List (List Nat)) (b : Books) : Prop where
  tied : Tied deps b
  lined : Lined (fun _ => False) b
  running : b.running = b.states.count .running
  unfinished : b.unfinished = b.states.countP (!·.isTerminal)
  limited : ∀ n, b.limit = some n → b.running ≤ n.1

theorem Lined.mem_iff {b : Books} (lined : Lined (fun _ => False) b) (c : Nat) :
    c ∈ b.ready ↔ ∃ e : Entry, b.jobs[c]? = some e ∧ e.state = .pending ∧ e.outstanding = 0 := by
  rw [lined.2 c]
  simp

/-! ## New books -/

theorem Sound.create (limit : Limit) (continueOnError : Bool) :
    Sound [] (Books.create limit continueOnError) where
  tied := .create limit continueOnError
  lined := ⟨List.nodup_nil, by simp [Books.create]⟩
  running := rfl
  unfinished := rfl
  limited := fun _ _ => Nat.zero_le _

/-! ## A job is added -/

theorem Sound.add {deps : List (List Nat)} {b b' : Books} {ds : List Nat} {e : Entry}
    (sound : Sound deps b) (added : Added ds e b b') : Sound (deps ++ [ds]) b' where
  tied := sound.tied.add added
  lined := by
    have mem := sound.lined.mem_iff
    have within {c : Nat} (h : c ∈ b.ready) : c < b.jobs.length := by
      obtain ⟨x, found, _⟩ := (mem c).mp h
      exact (List.getElem?_eq_some_iff.mp found).1
    have pending : e.state = .pending ↔ b.halted = none := by
      rcases added.state_cases with ⟨unhalted, h⟩ | ⟨cause, closed, h⟩
      · simp [unhalted, h]
      · simp [closed, h]
    have ready (c : Nat) : c ∈ b'.ready ↔ c ∈ b.ready ∨
        (c = b.jobs.length ∧ e.state = .pending ∧ e.outstanding = 0) := by
      rw [added.ready, pending]
      by_cases h : b.halted = none ∧ e.outstanding = 0 <;> simp [h]
    refine ⟨?_, fun c => ?_⟩
    · rw [added.ready]
      split
      · refine List.Nodup.append sound.lined.1 (List.nodup_singleton _) fun c old new => ?_
        rw [List.mem_singleton] at new
        have := within old
        omega
      · exact sound.lined.1
    · rw [ready, mem]
      simp only [not_false_eq_true, true_and]
      constructor
      · rintro (⟨x, found, waits⟩ | ⟨rfl, waits⟩)
        · exact ⟨_, added.old c x found, waits⟩
        · exact ⟨e, added.new, waits⟩
      · rintro ⟨x', found, waits⟩
        rcases added.cases found with ⟨rfl, rfl⟩ | ⟨inRange, x, foundx, rfl⟩
        · exact .inr ⟨rfl, waits⟩
        · exact .inl ⟨x, foundx, waits⟩
  running := by
    have noneRuns : [e.state].count .running = 0 := by
      rcases added.state_cases with ⟨_, h⟩ | ⟨cause, _, h⟩ <;> simp [h]
    rw [added.states, List.count_append, noneRuns, ← sound.running, added.frame]
    rfl
  unfinished := by
    rw [added.states, List.countP_append, ← sound.unfinished, added.unfinished]
    rcases added.state_cases with ⟨unhalted, h⟩ | ⟨cause, closed, h⟩
    · simp [unhalted, h, JobState.isTerminal]
    · simp [closed, h, JobState.isTerminal]
  limited := by
    rw [added.frame]
    exact sound.limited

end Books

end KeyFlow
