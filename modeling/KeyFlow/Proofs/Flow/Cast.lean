import KeyFlow.Proofs.Flow.Part
import KeyFlow.Proofs.Jobs.Dispatch

/-!
The parts of all jobs of a run, and what the store and the books say of them in the middle of it.
The store holds the inputs and the marks of the jobs that have written; the books hold no outcome
but the one that is foreseen, as long as they are not halted.
-/

namespace KeyFlow

/-- The jobs of a run with their parts; a job without one is never to start. -/
structure Cast where
  deps : List (List Nat)
  bodies : List (JobBody FlowState)
  inputs : List (Key × Mark)
  keys : List Key
  part : Nat → Option Part

namespace Cast

variable {c : Cast} {written : Nat → Bool}

/-- The job is foreseen to succeed. -/
def Succeeds (c : Cast) (j : Nat) : Prop := ∃ p, c.part j = some p ∧ p.outcome = .succeeded

/-- The parts fit together. -/
structure Fits (c : Cast) : Prop where
  plays : ∀ j body, c.bodies[j]? = some body → (∀ d ∈ c.deps[j]?.getD [], c.Succeeds d) →
    ∃ p, c.part j = some p ∧ p.Plays false false body
  gated : ∀ j p, c.part j = some p → ∀ d ∈ c.deps[j]?.getD [], c.Succeeds d
  inRange : ∀ j p, c.part j = some p → j < c.deps.length
  reads : ∀ j p, c.part j = some p → ∀ k ∈ p.keys, ∀ m, p.reads k = some m →
    (k, m) ∈ c.inputs ∨ ∃ d ∈ c.deps[j]?.getD [], ∃ q, c.part d = some q ∧ (k, m) ∈ q.writes
  /-- Where nothing is foreseen, nobody ever leaves anything. -/
  blank : ∀ j p, c.part j = some p → ∀ k ∈ p.keys, p.reads k = none → ∀ m,
    (k, m) ∉ c.inputs ∧ ∀ i q, c.part i = some q → (k, m) ∉ q.writes
  quiet : ∀ j p, c.part j = some p → p.outcome ≠ .succeeded → p.writes = []
  once : ∀ j p, c.part j = some p → (p.writes.map (·.1)).Nodup
  slots : ∀ j p, c.part j = some p → ∀ w ∈ p.writes, w.1 ∈ c.keys
  apart : ∀ j p i q, c.part j = some p → c.part i = some q →
    ∀ w ∈ p.writes, ∀ v ∈ q.writes, w.1 = v.1 → j = i
  new : ∀ j p, c.part j = some p → ∀ w ∈ p.writes, w.1 ∉ c.inputs.map (·.1)

/-- The store when the jobs in `written` have left their marks. -/
structure Holds (c : Cast) (written : Nat → Bool) (s : Store Held) : Prop where
  keys : s.keys = c.keys
  marks : ∀ k m, s.mark? k = some m ↔ (k, m) ∈ c.inputs ∨
    ∃ j p, written j = true ∧ c.part j = some p ∧ (k, m) ∈ p.writes

namespace Holds

variable {s s' : Store Held} {j : Nat} {p : Part}

/-- The slots of a job that has not written are empty. -/
theorem awaits (holds : c.Holds written s) (fits : c.Fits) (part : c.part j = some p)
    (fresh : written j = false) : s.Awaits p.writes := by
  intro w mem
  refine ⟨holds.keys ▸ fits.slots j p part w mem, ?_⟩
  rw [← Store.mark?_eq_none]
  by_contra full
  obtain ⟨m, found⟩ := Option.ne_none_iff_exists'.mp full
  rcases (holds.marks w.1 m).mp found with input | ⟨i, q, wrote, part', mem'⟩
  · exact fits.new j p part w mem (List.mem_map_of_mem (f := (·.1)) input)
  · rw [fits.apart j p i q part part' w mem _ mem' rfl, wrote] at fresh
    cases fresh

theorem write (holds : c.Holds written s) (fits : c.Fits) (part : c.part j = some p)
    (fresh : written j = false) (wrote : Store.Wrote p.writes s s') :
    c.Holds (fun i => if i = j then true else written i) s' := by
  have awaits := holds.awaits fits part fresh
  have stays {k : Key} {m : Mark} (found : s.mark? k = some m) : s'.mark? k = some m :=
    wrote.stays awaits found
  refine ⟨wrote.keys.trans holds.keys, fun k m => ⟨fun found => ?_, ?_⟩⟩
  · rw [wrote.marks] at found
    cases new : p.writes.lookup k with
    | some m' =>
      rw [new] at found
      cases found
      exact .inr ⟨j, p, if_pos rfl, part, mem_pairs_of_lookup new⟩
    | none =>
      rw [new] at found
      refine ((holds.marks k m).mp found).imp_right ?_
      rintro ⟨i, q, old, part', mem⟩
      exact ⟨i, q, by split <;> trivial, part', mem⟩
  · rintro (input | ⟨i, q, old, part', mem⟩)
    · exact stays ((holds.marks k m).mpr (.inl input))
    · by_cases same : i = j
      · subst same
        rw [part, Option.some.injEq] at part'
        subst part'
        rw [wrote.marks, lookup_of_mem (fits.once i p part) mem]
        rfl
      · rw [if_neg same] at old
        exact stays ((holds.marks k m).mpr (.inr ⟨i, q, old, part', mem⟩))

end Holds

/-! ## The books -/

/-- A job that ended in this state ended as foreseen, and a job that succeeded has left its
marks. -/
def Ended (c : Cast) (written : Nat → Bool) (j : Nat) (s : JobState) : Prop :=
  (s = .succeeded → c.Succeeds j ∧ written j = true) ∧
    (s = .failed → ∃ p, c.part j = some p ∧ p.outcome = .failed) ∧
    (s = .skipped .declined → ∃ p, c.part j = some p ∧ p.outcome = .declined)

/-- The books of a run in which these errors occurred. -/
structure Booked (c : Cast) (written : Nat → Bool) (errors : List Error) (b : Books) : Prop where
  ended : ∀ j s, b.stateOf j = some s → c.Ended written j s
  failed : errors = [] ↔ ∀ j, b.stateOf j ≠ some .failed
  halted : errors = [] → b.halted = none
  notDeclined : b.halted ≠ some .declined

namespace Booked

variable {errors : List Error} {b b' : Books}

theorem mono (booked : c.Booked written errors b) {written' : Nat → Bool}
    (more : ∀ j, written j = true → written' j = true) : c.Booked written' errors b where
  ended := by
    intro j s state
    obtain ⟨succeeded, rest⟩ := booked.ended j s state
    exact ⟨fun is => ⟨(succeeded is).1, more j (succeeded is).2⟩, rest⟩
  failed := booked.failed
  halted := booked.halted
  notDeclined := booked.notDeclined

/-- What a job reads is there when those that it depends on succeeded, and nothing else is. -/
theorem agrees (booked : c.Booked written errors b) (fits : c.Fits) {s : Store Held}
    (holds : c.Holds written s) {j : Nat} {p : Part} (part : c.part j = some p)
    (succeeded : ∀ d ∈ c.deps[j]?.getD [], b.stateOf d = some .succeeded) :
    s.Agrees p.keys p.reads := by
  intro k mem
  cases foreseen : p.reads k with
  | some m =>
    refine (holds.marks k m).mpr ((fits.reads j p part k mem m foreseen).imp_right ?_)
    rintro ⟨d, dependency, q, part', mem'⟩
    have wrote := ((booked.ended d _ (succeeded d dependency)).1 rfl).2
    exact ⟨d, q, wrote, part', mem'⟩
  | none =>
    by_contra full
    obtain ⟨m, found⟩ := Option.ne_none_iff_exists'.mp full
    obtain ⟨notInput, unwritten⟩ := fits.blank j p part k mem foreseen m
    rcases (holds.marks k m).mp found with input | ⟨i, q, _, part', mem'⟩
    · exact notInput input
    · exact unwritten i q part' mem'

/-- A job that was skipped did not decline. -/
theorem other (booked : c.Booked written errors b) {out : Nat → Prop}
    (length : b'.jobs.length = b.jobs.length) (notDeclined : b'.halted ≠ some .declined)
    (skips : Books.SkipsBut out b b') {j : Nat} {s : JobState} (isNot : ¬ out j)
    (state : b'.stateOf j = some s) : c.Ended written j s := by
  rcases skips.cases length notDeclined isNot state with before | ⟨_, cause, rfl, not⟩
  · exact booked.ended j s before
  · refine ⟨nofun, nofun, ?_⟩
    rintro ⟨⟩
    exact absurd rfl not

/-- Pending jobs were skipped, and the next one runs, if there is one. -/
theorem answered (booked : c.Booked written errors b) {r : Option Nat}
    (answered : b.Answered c.deps r b') : c.Booked written errors b' where
  ended := by
    intro j s state
    by_cases next : r = some j
    · rw [(answered.begins j next).running, Option.some.injEq] at state
      subst state
      exact ⟨nofun, nofun, nofun⟩
    · have notDeclined := answered.halted ▸ booked.notDeclined
      exact booked.other answered.frame.length notDeclined answered.skips next state
  failed := by
    rw [booked.failed]
    refine forall_congr' fun j => not_congr ?_
    by_cases next : r = some j
    · have begins := answered.begins j next
      rw [begins.pending, begins.running]
      exact ⟨nofun, nofun⟩
    · exact ⟨fun failed => answered.skips.ended next failed rfl,
        fun failed => answered.skips.before answered.frame.length next failed rfl⟩
  halted := fun noErrors => answered.halted.trans (booked.halted noErrors)
  notDeclined := answered.halted ▸ booked.notDeclined

/-- A job ended as foreseen. -/
theorem complete (booked : c.Booked written errors b) {j : Nat} {e : Conclusion} {p : Part}
    (part : c.part j = some p) (foreseen : e.outcome = p.outcome)
    (wrote : p.outcome = .succeeded → written j = true)
    (running : b.stateOf j = some .running) (completes : b.Completes c.deps j e.outcome b') :
    c.Booked written (errors ++ e.error?.toList) b' := by
  have error_iff : e.error?.toList = [] ↔ e.outcome ≠ .failed := by
    cases e with
    | returned how => cases how <;> simp [Conclusion.error?, Conclusion.outcome]
    | failed | panicked => simp [Conclusion.error?, Conclusion.outcome]
  have length := completes.frame.length
  have notDeclined : b'.halted ≠ some .declined := by
    rw [completes.halted]
    split
    · cases before : b.halted with
      | none => nofun
      | some cause =>
        rw [Option.some_or, ← before]
        exact booked.notDeclined
    · exact booked.notDeclined
  refine ⟨?_, ?_, ?_, notDeclined⟩
  · intro i s state
    by_cases same : i = j
    · subst same
      rw [completes.ended, Option.some.injEq] at state
      subst state
      rw [foreseen]
      refine ⟨fun is => ?_, fun is => ⟨p, part, ?_⟩, fun is => ⟨p, part, ?_⟩⟩
      · have succeeds : p.outcome = .succeeded := Outcome.state_inj is
        exact ⟨⟨p, part, succeeds⟩, wrote succeeds⟩
      · exact Outcome.state_inj is
      · exact Outcome.state_inj is
    · exact booked.other length notDeclined completes.skips same state
  · rw [List.append_eq_nil_iff, error_iff, booked.failed]
    constructor
    · rintro ⟨others, fine⟩ i failed
      by_cases same : i = j
      · subst same
        rw [completes.ended, Option.some.injEq] at failed
        exact fine (Outcome.state_inj failed)
      · exact others i (completes.skips.before length same failed rfl)
    · intro noErrors
      refine ⟨fun i failed => ?_, fun fails => noErrors j (by rw [completes.ended, fails]; rfl)⟩
      by_cases same : i = j
      · subst same
        rw [running] at failed
        cases failed
      · exact noErrors i (completes.skips.ended same failed rfl)
  · intro noErrors
    obtain ⟨before, fine⟩ := List.append_eq_nil_iff.mp noErrors
    rw [completes.halted, if_neg fun h => error_iff.mp fine h.1]
    exact booked.halted before

/-- What the books hold of all jobs at the end of a run without errors. The induction is on the
index, for a job depends on earlier ones only. -/
theorem foreseen (booked : c.Booked written errors b) (fits : c.Fits)
    (sound : Books.Sound c.deps b) (finished : ∀ s ∈ b.states, s.isTerminal = true)
    (fine : errors = []) (j : Nat) {p : Part} (part : c.part j = some p) :
    b.stateOf j = some p.outcome.state := by
  induction j using Nat.strongRecOn generalizing p with
  | ind j ih =>
    have inRange : j < b.jobs.length := sound.tied.length ▸ fits.inRange j p part
    have found := List.getElem?_eq_getElem inRange
    have state := Books.stateOf_eq found
    have terminal := finished _ (List.mem_of_getElem? ((Books.getElem?_states b j).trans state))
    have ready : ∀ d ∈ c.deps[j]?.getD [], b.stateOf d = some .succeeded := by
      intro d dependency
      obtain ⟨q, part', succeeds⟩ := fits.gated j p part d dependency
      rw [ih d (sound.tied.earlier j d dependency) part', succeeds]
      rfl
    obtain ⟨succeeded, failed, declined⟩ := booked.ended j _ state
    have mine {o : Outcome} (h : ∃ q, c.part j = some q ∧ q.outcome = o) : p.outcome = o := by
      obtain ⟨q, part', is⟩ := h
      rw [part, Option.some.injEq] at part'
      rw [part', is]
    cases is : b.jobs[j].state with
    | pending | running =>
      rw [is] at terminal
      cases terminal
    | succeeded =>
      rw [state, is, mine (succeeded is).1]
      rfl
    | failed =>
      rw [is] at state
      exact absurd state (booked.failed.mp fine j)
    | skipped cause =>
      rcases sound.tied.skipped j _ cause found is with rfl | halted | ⟨d, dependency, blocks⟩
      · rw [state, is, mine (declined is)]
        rfl
      · rw [booked.halted fine] at halted
        cases halted
      · rw [Books.blocksOf_eq (ready d dependency)] at blocks
        cases blocks

end Booked

end Cast

end KeyFlow
