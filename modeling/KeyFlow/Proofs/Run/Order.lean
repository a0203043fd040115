import KeyFlow.Proofs.Run.Reported

/-!
The order of the moments of a run. A job is started after all that it depends on has succeeded and,
in a run that stops at failures, before any job has failed; a run that goes on after failures is
halted by a cancellation only.
-/

namespace KeyFlow

/-- A moment of a timeline that one more is added to is an old one or the new one. -/
theorem split_concat {α : Type} {l before after : List α} {x y : α}
    (split : l ++ [x] = before ++ y :: after) :
    (∃ after', l = before ++ y :: after') ∨ (l = before ∧ x = y) := by
  obtain rfl | ⟨after', z, rfl⟩ := List.eq_nil_or_concat' after
  · obtain ⟨same, is⟩ := List.append_inj' split rfl
    exact .inr ⟨same, (List.cons.inj is).1⟩
  · rw [← List.cons_append, ← List.append_assoc] at split
    exact .inl ⟨after', (List.append_inj' split rfl).1⟩

namespace Machine

variable {σ : Type} {start m m' last : Machine σ} {deps : List (List Nat)} {goesOn : Bool}
  {ends : List (Nat × Conclusion)}

/-- The moment of an end is in the timeline just if the books tell of it. -/
theorem Told.recorded_iff (told : Told start m ends) {j : Nat} {o : Outcome} :
    .recorded j o ∈ m.timeline ↔ m.books.stateOf j = some o.state := by
  have moment : .recorded j o ∈ m.timeline ↔
      (j, o) ∈ m.timeline.filterMap Moment.recorded? := by
    rw [List.mem_filterMap]
    constructor
    · exact fun mem => ⟨_, mem, rfl⟩
    · rintro ⟨⟨_⟩ | ⟨_⟩, mem, is⟩ <;> cases is
      exact mem
  rw [moment, told.recorded, told.ended, List.mem_map]
  constructor
  · rintro ⟨⟨_, c⟩, listed, is⟩
    cases is
    exact ⟨c, listed, rfl⟩
  · rintro ⟨c, listed, rfl⟩
    exact ⟨(j, c), listed, rfl⟩

/-- What was recorded before each job was started, in a run that goes on after failures or does not,
and what its books were halted for. -/
structure Orderly (deps : List (List Nat)) (goesOn : Bool) (m : Machine σ) : Prop where
  mode : m.books.continueOnError = goesOn
  behind : ∀ before j after, m.timeline = before ++ .started j :: after →
    ∀ d ∈ deps[j]?.getD [], .recorded d .succeeded ∈ before
  unfailed : goesOn = false → ∀ before j after, m.timeline = before ++ .started j :: after →
    ∀ k, .recorded k .failed ∉ before
  stopped : goesOn = false → ∀ k, .recorded k .failed ∈ m.timeline →
    m.books.halted.isSome = true
  unhalted : goesOn = true → ∀ cause, m.books.halted = some cause → cause = .cancelled

/-- Nothing was told yet, and nothing was halted. -/
theorem Orderly.of_fresh (mode : m.books.continueOnError = goesOn) (untold : m.timeline = [])
    (unhalted : m.books.halted = none) : Orderly deps goesOn m := by
  refine ⟨mode, fun before j after split => ?_, fun _ before j after split => ?_,
    fun _ k mem => ?_, fun _ cause halted => ?_⟩
  · rw [untold] at split
    cases before <;> cases split
  · rw [untold] at split
    cases before <;> cases split
  · rw [untold] at mem
    cases mem
  · rw [unhalted] at halted
    cases halted

theorem Orderly.congr (orderly : Orderly deps goesOn m) (timeline : m'.timeline = m.timeline)
    (books : m'.books = m.books) : Orderly deps goesOn m' where
  mode := books ▸ orderly.mode
  behind := timeline ▸ orderly.behind
  unfailed := timeline ▸ orderly.unfailed
  stopped := timeline ▸ books ▸ orderly.stopped
  unhalted := books ▸ orderly.unhalted

/-- The books of a cancelled run may be halted, whatever was told before. -/
theorem Orderly.withBooks (orderly : Orderly deps goesOn m) {books : Books}
    (frame : Books.SameFrame m.books books)
    (halted : books.halted = m.books.halted ∨
      books.halted = m.books.halted.or (some .cancelled)) :
    Orderly deps goesOn { m with books } where
  mode := frame.continueOnError.trans orderly.mode
  behind := orderly.behind
  unfailed := orderly.unfailed
  stopped := by
    intro stops k mem
    have before := orderly.stopped stops k mem
    rcases halted with same | same
    · exact same ▸ before
    · rw [same, Option.isSome_or, before]
      rfl
  unhalted := by
    intro mode cause closed
    have before := orderly.unhalted mode cause
    rcases halted with same | same
    · exact before (same ▸ closed)
    · rw [same, Option.or_eq_some_iff] at closed
      rcases closed with old | ⟨_, now⟩
      · exact before old
      · exact (Option.some.inj now).symm

theorem Orderly.dispatched (orderly : Orderly deps goesOn m) (kept : Kept deps m)
    (told : Told start m ends) {books : Books} {job : Nat} {slots : List (Slot σ)}
    {queue tokens : List Nat} (next : m.books.nextDispatch = .ok (some job, books)) :
    Orderly deps goesOn { m with
      books, slots, queue, tokens
      timeline := m.timeline ++ [.started job] } := by
  have answered := kept.sound.answered next
  have begins := answered.begins job rfl
  -- Only open books dispatch, and in a run that stops a failure has closed them.
  have unfailed (stops : goesOn = false) (k : Nat) : .recorded k .failed ∉ m.timeline := by
    intro mem
    have closed := orderly.stopped stops k mem
    rw [begins.unhalted] at closed
    cases closed
  refine ⟨answered.frame.continueOnError.trans orderly.mode, ?_,
    fun stops before j after split => ?_, fun stops k mem => ?_, fun _ cause closed => ?_⟩
  · intro before j after split d dependency
    rcases split_concat split with ⟨_, old⟩ | ⟨rfl, new⟩
    · exact orderly.behind before j _ old d dependency
    · cases new
      exact told.recorded_iff.mpr (begins.succeeded d dependency)
  · rcases split_concat split with ⟨_, old⟩ | ⟨rfl, _⟩
    · exact orderly.unfailed stops before j _ old
    · exact unfailed stops
  · rcases List.mem_append.mp mem with before | now
    · exact absurd before (unfailed stops k)
    · cases List.mem_singleton.mp now
  · rw [answered.halted, begins.unhalted] at closed
    cases closed

theorem Orderly.recorded (orderly : Orderly deps goesOn m) (kept : Kept deps m) {books : Books}
    {job : Nat} {c : Conclusion} {rest : List (Nat × Conclusion)}
    (conclusions : m.conclusions = (job, c) :: rest)
    (complete : m.books.complete job c.outcome = .ok books) :
    Orderly deps goesOn { m with
      conclusions := rest
      busy := true
      books
      errors := m.errors ++ c.error?.toList
      timeline := m.timeline ++ [.recorded job c.outcome] } := by
  have completes := kept.completes conclusions complete
  have halted := completes.halted
  rw [orderly.mode] at halted
  refine ⟨completes.frame.continueOnError.trans orderly.mode, fun before j after split => ?_,
    fun stops before j after split => ?_, fun stops k mem => ?_, fun mode cause closed => ?_⟩
  · rcases split_concat split with ⟨_, old⟩ | ⟨_, no⟩
    · exact orderly.behind before j _ old
    · cases no
  · rcases split_concat split with ⟨_, old⟩ | ⟨_, no⟩
    · exact orderly.unfailed stops before j _ old
    · cases no
  · rw [halted]
    rcases List.mem_append.mp mem with before | now
    · have closed := orderly.stopped stops k before
      split
      · rw [Option.isSome_or, closed]
        rfl
      · exact closed
    · obtain ⟨_, failed⟩ := Moment.recorded.inj (List.mem_singleton.mp now)
      rw [if_pos ⟨failed.symm, stops⟩, Option.isSome_or]
      exact Bool.or_true _
  · rw [halted, mode, if_neg (by simp)] at closed
    exact orderly.unhalted mode cause closed

theorem Orderly.quiet (orderly : Orderly deps goesOn m) (kept : Kept deps m)
    (told : Told start m ends) (quiet : Quiet m m') : Orderly deps goesOn m' := by
  cases quiet with
  | turned | rested | passed | arrived | passedOver => exact orderly.congr rfl rfl
  | sampled =>
    unfold sample
    split <;> exact orderly.congr rfl rfl
  | woken job =>
    unfold wake
    split <;> exact orderly.congr rfl rfl
  | noticed cancelled halted =>
    have halts := kept.sound.halts halted
    exact (orderly.withBooks halts.frame (.inr halts.halted)).congr rfl rfl
  | waited next =>
    have answered := kept.sound.answered next
    exact orderly.withBooks answered.frame (.inl answered.halted)
  | dispatched next => exact orderly.dispatched kept told next
  | forgone next gone => exact (kept.not_gone next gone).elim
  | recorded conclusions complete => exact orderly.recorded kept conclusions complete

/-- In a run that finished everything was started in order. -/
theorem orderly_of_run (kept : Kept deps start) (told : Told start start [])
    (orderly : Orderly deps goesOn start) (run : start.run = .finished last) :
    Orderly deps goesOn last := by
  let P (m : Machine σ) := (∃ ends, Told start m ends) ∧ Orderly deps goesOn m
  have all : P last := by
    refine kept.run_keeps ?_ ?_ run ⟨⟨[], told⟩, orderly⟩
    · rintro m m' reached quiet ⟨⟨ends, told⟩, orderly⟩
      have kept := kept.reaches reached
      exact ⟨told.quiet kept quiet, orderly.quiet kept told quiet⟩
    · rintro m job rest body comes resting polls ⟨⟨ends, told⟩, orderly⟩
      obtain ⟨books, _, timeline, _⟩ := m.ranOn_records job rest body
      exact ⟨⟨ends, told.polled comes resting polls⟩, orderly.congr timeline books⟩
  exact all.2

/-- A job that was skipped behind jobs that all succeeded was stopped by a cancellation, or by a
failure in a run that does not go on. -/
theorem Rests.halted_of_skipped (rests : Rests deps start last ends)
    (orderly : Orderly deps goesOn last) {job : Nat} {cause : SkipCause}
    (skipped : last.books.stateOf job = some (.skipped cause)) (undone : cause ≠ .declined)
    (all : ∀ d ∈ deps[job]?.getD [], last.books.stateOf d = some .succeeded) :
    (cause = .cancelled ∧ last.cancelled = true) ∨
      (cause = .flowFailed ∧ goesOn = false ∧ ∃ k, last.books.stateOf k = some .failed) := by
  obtain ⟨e, entry, state⟩ := Books.entry_of_stateOf skipped
  rcases rests.kept.sound.tied.skipped job e cause entry state with
    declined | halted | ⟨d, dependency, blocks⟩
  · exact absurd declined undone
  · rcases rests.told.halted cause halted with cancelled | ⟨rfl, failed⟩
    · exact .inl cancelled
    · refine .inr ⟨rfl, ?_, failed⟩
      rw [← Bool.not_eq_true]
      intro mode
      cases orderly.unhalted mode _ halted
  · rw [Books.blocksOf_eq (all d dependency)] at blocks
    cases blocks

end Machine

end KeyFlow
