import KeyFlow.Body

/-!
Progress of jobs. A slot holds what is left of a job's body; every move of a slot brings it nearer
to its end, so a table of slots cannot move for ever.
-/

namespace KeyFlow

/-- How a job's body finished when it did not fail. -/
inductive Completion where
  | done
  /-- The job declined to do its work. -/
  | skip
  deriving DecidableEq, Repr

/-- The whole work of a job. -/
abbrev JobBody (σ : Type) : Type := Process σ (Ending Completion)

/-- Where a body stopped for the time being. -/
inductive Pause (σ : Type) where
  | ended (e : Ending Completion)
  | asleep (millis : Nat) (next : Nat → JobBody σ)
  | awaiting (next : Nat → JobBody σ)

/-- What a body sees and may change while it runs. -/
structure World (σ : Type) where
  clock : Nat
  /-- The token of the run is cancelled. -/
  cancelled : Bool
  /-- The token of the body itself was cancelled. -/
  ownCancelled : Bool
  shared : σ

/-- Runs a body up to its next pause. A sleep of no time and a wait for a cancellation that took
place are none; a token that the run's cancellation has reached is not cancelled again. -/
def JobBody.advance {σ : Type} : JobBody σ → World σ → Pause σ × World σ
  | .done e, w => (.ended e, w)
  | .call change next, w => advance (next w.shared) { w with shared := change w.shared }
  | .sleep 0 next, w => advance (next w.clock) w
  | .sleep (n + 1) next, w => (.asleep (n + 1) next, w)
  | .awaitCancel next, w =>
    if w.cancelled || w.ownCancelled then advance (next w.clock) w else (.awaiting next, w)
  | .isCancelled next, w => advance (next (w.cancelled || w.ownCancelled)) w
  | .cancelRun next, w => advance next { w with cancelled := true }
  | .cancelOwn next, w => advance next { w with ownCancelled := w.ownCancelled || !w.cancelled }

/-- What is left of a job. -/
inductive Slot (σ : Type) where
  | fresh (body : JobBody σ)
  | queued (body : JobBody σ)
  | asleep (wakeAt : Nat) (next : Nat → JobBody σ)
  | awaiting (next : Nat → JobBody σ)
  | spent

namespace Slot

variable {σ : Type}

/-- The moves of a slot, the new one before the old. -/
inductive Moved : Slot σ → Slot σ → Prop
  | start (p : JobBody σ) : Moved (.queued p) (.fresh p)
  | ended (p : JobBody σ) : Moved .spent (.queued p)
  | slept (p : JobBody σ) (w : World σ) (millis wakeAt : Nat) (next : Nat → JobBody σ) :
    (p.advance w).1 = .asleep millis next → Moved (.asleep wakeAt next) (.queued p)
  | waits (p : JobBody σ) (w : World σ) (next : Nat → JobBody σ) :
    (p.advance w).1 = .awaiting next → Moved (.awaiting next) (.queued p)
  | woke (wakeAt clock : Nat) (next : Nat → JobBody σ) :
    Moved (.queued (next clock)) (.asleep wakeAt next)
  | resumed (clock : Nat) (next : Nat → JobBody σ) :
    Moved (.queued (next clock)) (.awaiting next)

theorem acc_spent : Acc Moved (Slot.spent : Slot σ) := ⟨_, fun _ h => by cases h⟩

/-- A body that pauses where another one does has no more moves than that one. -/
private theorem acc_of_same_pauses {p : JobBody σ}
    (h : ∀ w : World σ, ∃ q : JobBody σ, ∃ w', Acc Moved (Slot.queued q) ∧
      (p.advance w).1 = (q.advance w').1) : Acc Moved (Slot.queued p) := by
  refine ⟨_, fun s moved => ?_⟩
  cases moved with
  | ended => exact acc_spent
  | slept _ w millis wakeAt next paused =>
    obtain ⟨q, w', acc, same⟩ := h w
    exact acc.inv (.slept q w' millis wakeAt next (same ▸ paused))
  | waits _ w next paused =>
    obtain ⟨q, w', acc, same⟩ := h w
    exact acc.inv (.waits q w' next (same ▸ paused))

private theorem acc_asleep {wakeAt : Nat} {next : Nat → JobBody σ}
    (h : ∀ t, Acc Moved (Slot.queued (next t))) : Acc Moved (Slot.asleep wakeAt next) :=
  ⟨_, fun _ moved => by cases moved; exact h _⟩

private theorem acc_awaiting {next : Nat → JobBody σ}
    (h : ∀ t, Acc Moved (Slot.queued (next t))) : Acc Moved (Slot.awaiting next) :=
  ⟨_, fun _ moved => by cases moved; exact h _⟩

theorem acc_queued (p : JobBody σ) : Acc Moved (Slot.queued p) := by
  induction p with
  | done e =>
    refine ⟨_, fun s moved => ?_⟩
    cases moved with
    | ended => exact acc_spent
    | slept _ w millis wakeAt next paused => cases paused
    | waits _ w next paused => cases paused
  | call change next ih => exact acc_of_same_pauses fun w => ⟨_, _, ih w.shared, rfl⟩
  | sleep millis next ih =>
    cases millis with
    | zero => exact acc_of_same_pauses fun w => ⟨_, w, ih w.clock, rfl⟩
    | succ n =>
      refine ⟨_, fun s moved => ?_⟩
      cases moved with
      | ended => exact acc_spent
      | slept _ w millis wakeAt next' paused => cases paused; exact acc_asleep ih
      | waits _ w next' paused => cases paused
  | awaitCancel next ih =>
    refine ⟨_, fun s moved => ?_⟩
    cases moved with
    | ended => exact acc_spent
    | slept _ w millis wakeAt next' paused =>
      simp only [JobBody.advance] at paused
      split at paused
      · exact (ih w.clock).inv (.slept _ w millis wakeAt next' paused)
      · cases paused
    | waits _ w next' paused =>
      simp only [JobBody.advance] at paused
      split at paused
      · exact (ih w.clock).inv (.waits _ w next' paused)
      · cases paused; exact acc_awaiting ih
  | isCancelled next ih => exact acc_of_same_pauses fun w => ⟨_, w, ih _, rfl⟩
  | cancelRun next ih => exact acc_of_same_pauses fun w => ⟨_, _, ih, rfl⟩
  | cancelOwn next ih => exact acc_of_same_pauses fun w => ⟨_, _, ih, rfl⟩

theorem moved_wf : WellFounded (Moved : Slot σ → Slot σ → Prop) := by
  refine ⟨fun s => ?_⟩
  cases s with
  | fresh p => exact ⟨_, fun _ moved => by cases moved; exact acc_queued p⟩
  | queued p => exact acc_queued p
  | asleep wakeAt next => exact acc_asleep fun t => acc_queued (next t)
  | awaiting next => exact acc_awaiting fun t => acc_queued (next t)
  | spent => exact acc_spent

end Slot

/-- One element of the left list is `r`-below its place in the right one, the others are equal. -/
inductive OneBelow {α : Type} (r : α → α → Prop) : List α → List α → Prop
  | head {a b : α} (l : List α) : r a b → OneBelow r (a :: l) (b :: l)
  | tail (a : α) {l l' : List α} : OneBelow r l l' → OneBelow r (a :: l) (a :: l')

namespace OneBelow

variable {α : Type} {r : α → α → Prop}

private theorem acc_cons {a : α} (ha : Acc r a) :
    ∀ {l : List α}, Acc (OneBelow r) l → Acc (OneBelow r) (a :: l) := by
  induction ha with
  | intro a _ iha =>
    intro l hl
    induction hl with
    | intro l accl ihl =>
      refine ⟨_, fun m below => ?_⟩
      cases below with
      | head _ lower => exact iha _ lower ⟨_, accl⟩
      | tail _ lower => exact ihl _ lower

theorem wf (h : WellFounded r) : WellFounded (OneBelow r) := by
  refine ⟨fun l => ?_⟩
  induction l with
  | nil => exact ⟨_, fun _ below => by cases below⟩
  | cons a l ih => exact acc_cons (h.apply a) ih

theorem set {l : List α} {i : Nat} {a b : α} (h : l[i]? = some b) (lower : r a b) :
    OneBelow r (l.set i a) l := by
  induction l generalizing i with
  | nil => simp at h
  | cons c l ih =>
    cases i with
    | zero =>
      simp only [List.getElem?_cons_zero, Option.some.injEq] at h
      subst h
      exact .head _ lower
    | succ i =>
      simp only [List.getElem?_cons_succ] at h
      exact .tail _ (ih h)

end OneBelow

/-- The left table of slots comes out of the right one by at least one move. -/
def Advanced {σ : Type} : List (Slot σ) → List (Slot σ) → Prop :=
  Relation.TransGen (OneBelow Slot.Moved)

theorem advanced_wf {σ : Type} : WellFounded (Advanced : List (Slot σ) → List (Slot σ) → Prop) :=
  (OneBelow.wf Slot.moved_wf).transGen

end KeyFlow
