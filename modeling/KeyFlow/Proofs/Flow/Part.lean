import KeyFlow.Proofs.Flow.Evaluation
import KeyFlow.Proofs.Flow.Written

/-!
The part of a job in a run of a flow. A body that plays its part reads what is there when it starts,
ends in the one way that is foreseen, and leaves its marks in the store all at once, whatever the
other jobs do meanwhile and whenever it is woken.
-/

namespace KeyFlow

/-- What a held thing stands for. -/
def Held.mark : Held → Mark
  | .value v => .value v
  | .verdict .run => .run
  | .verdict .skip => .skip
  | .verdict (.faulted _) => .fault

namespace Store

variable {s s' : Store Held} {marks : List (Key × Mark)} {k : Key} {m : Mark}

def mark? (s : Store Held) (k : Key) : Option Mark := (s.get? k).map Held.mark

/-- The store has these marks under the keys, and no others. -/
def Agrees (s : Store Held) (keys : List Key) (marks : Key → Option Mark) : Prop :=
  ∀ k ∈ keys, s.mark? k = marks k

/-- The slots for these marks are empty. -/
def Awaits (s : Store Held) (marks : List (Key × Mark)) : Prop := ∀ p ∈ marks, s.IsFree p.1

/-- The right store is the left one with these marks added. -/
structure Wrote (marks : List (Key × Mark)) (s s' : Store Held) : Prop where
  keys : s'.keys = s.keys
  marks : ∀ k, s'.mark? k = (marks.lookup k).or (s.mark? k)

theorem mark?_eq_none : s.mark? k = none ↔ s.get? k = none := Option.map_eq_none_iff

theorem value?_eq (s : Store Held) (k : Key) : s.value? k = (s.mark? k).map Mark.read := by
  rw [value?, mark?]
  cases s.get? k with
  | none => rfl
  | some held =>
    cases held with
    | value v => rfl
    | verdict v => cases v <;> rfl

/-- What is written stays. -/
theorem Wrote.stays (wrote : Wrote marks s s') (awaits : s.Awaits marks)
    (found : s.mark? k = some m) : s'.mark? k = some m := by
  have new : marks.lookup k = none := by
    rw [lookup_eq_none]
    intro listed
    obtain ⟨q, written, rfl⟩ := List.mem_map.mp listed
    have empty := mark?_eq_none.mpr (awaits q written).2
    rw [found] at empty
    cases empty
  rw [wrote.marks, new]
  exact found

end Store

structure Part where
  /-- What the job may read. -/
  keys : List Key
  /-- What is there when it starts, for as long as it has left nothing behind itself. -/
  reads : Key → Option Mark
  outcome : Outcome
  /-- What a job that succeeds leaves behind. -/
  writes : List (Key × Mark)

namespace Part

variable {part : Part} {cancelled written : Bool}

/-- The rest of a body plays its part; `cancelled` says whether it has cancelled its own token, and
`written` whether its marks are in the store. -/
def Plays (part : Part) : (cancelled written : Bool) → JobBody FlowState → Prop
  | _, written, .done e =>
    Conclusion.outcome e = part.outcome ∧ (written = true ↔ part.outcome = .succeeded)
  | cancelled, written, .call change next => ∀ s : FlowState,
    (written = false → s.store.Agrees part.keys part.reads ∧ s.store.Awaits part.writes) →
      ((change s).store = s.store ∧ Plays part cancelled written (next s)) ∨
        (written = false ∧ Store.Wrote part.writes s.store (change s).store ∧
          Plays part cancelled true (next s))
  | cancelled, written, .sleep _ next => ∀ t, Plays part cancelled written (next t)
  | cancelled, written, .awaitCancel next =>
    cancelled = true ∧ ∀ t, Plays part cancelled written (next t)
  | cancelled, written, .isCancelled next => Plays part cancelled written (next cancelled)
  | _, _, .cancelRun _ => False
  | _, written, .cancelOwn next => Plays part true written next

/-- A body that paused here has played its part so far. -/
def PlaysAt (part : Part) (cancelled written : Bool) : Pause FlowState → Prop
  | .ended e => Conclusion.outcome e = part.outcome ∧
      (written = true ↔ part.outcome = .succeeded)
  | .asleep _ next => ∀ t, part.Plays cancelled written (next t)
  | .awaiting _ => False

/-- Between two pauses a body leaves the store alone, or it adds its marks. -/
theorem Plays.advance {body : JobBody FlowState} (plays : part.Plays cancelled written body)
    {w : World FlowState} (calm : w.cancelled = false) (own : w.ownCancelled = cancelled)
    (ready : written = false → w.shared.store.Agrees part.keys part.reads ∧
      w.shared.store.Awaits part.writes) :
    ∃ written' : Bool, (body.advance w).2.cancelled = false ∧
      (cancelled = true → (body.advance w).2.ownCancelled = true) ∧
      part.PlaysAt (body.advance w).2.ownCancelled written' (body.advance w).1 ∧
      ((written' = written ∧ (body.advance w).2.shared.store = w.shared.store) ∨
        (written = false ∧ written' = true ∧
          Store.Wrote part.writes w.shared.store (body.advance w).2.shared.store)) := by
  induction body generalizing cancelled written w with
  | done e => exact ⟨written, calm, own.trans, plays, .inl ⟨rfl, rfl⟩⟩
  | call change next ih =>
    rcases plays w.shared ready with ⟨same, rest⟩ | ⟨fresh, wrote, rest⟩
    · obtain ⟨written', calm', kept, placed, left⟩ := ih w.shared rest
        (w := { w with shared := change w.shared }) calm own (same ▸ ready)
      exact ⟨written', calm', kept, placed, by rwa [same] at left⟩
    · obtain ⟨written', calm', kept, placed, left⟩ := ih w.shared rest
        (w := { w with shared := change w.shared }) calm own nofun
      refine ⟨written', calm', kept, placed, .inr ⟨fresh, ?_⟩⟩
      rcases left with ⟨still, same⟩ | ⟨no, _⟩
      · refine ⟨still, ?_⟩
        rw [JobBody.advance, same]
        exact wrote
      · cases no
  | sleep millis next ih =>
    cases millis with
    | zero => exact ih w.clock (plays w.clock) calm own ready
    | succ n => exact ⟨written, calm, own.trans, fun t => own ▸ plays t, .inl ⟨rfl, rfl⟩⟩
  | awaitCancel next ih =>
    have woken : (w.cancelled || w.ownCancelled) = true := by rw [own, plays.1, Bool.or_true]
    rw [JobBody.advance, if_pos woken]
    exact ih w.clock (plays.2 w.clock) calm own ready
  | isCancelled next ih =>
    have seen : (w.cancelled || w.ownCancelled) = cancelled := by rw [calm, own, Bool.false_or]
    rw [JobBody.advance, seen]
    exact ih cancelled plays calm own ready
  | cancelRun next => cases plays
  | cancelOwn next ih =>
    have cancels : (w.ownCancelled || !w.cancelled) = true := by
      rw [calm, Bool.not_false, Bool.or_true]
    obtain ⟨written', calm', kept, rest⟩ :=
      ih (w := { w with ownCancelled := w.ownCancelled || !w.cancelled }) plays calm cancels ready
    exact ⟨written', calm', fun _ => kept rfl, rest⟩

end Part

end KeyFlow
