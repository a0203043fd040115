import KeyFlow.Proofs.Run.Serving

/-!
What a run never takes back: its timeline and its errors only grow, a job at an end stays there, and
books that were halted stay so, for the same cause, and start nothing more.
-/

namespace KeyFlow

namespace Machine

variable {σ : Type} {start m m' : Machine σ} {deps : List (List Nat)}

/-- What the right machine, a later one of the same run, has kept of the left one. -/
structure Keeps (m m' : Machine σ) : Prop where
  frame : Books.SameFrame m.books m'.books
  timeline : ∃ later, m'.timeline = m.timeline ++ later ∧
    (m.books.halted.isSome = true → ∀ j, .started j ∉ later)
  errors : m.errors <+: m'.errors
  halted : m.books.halted.isSome = true → m'.books.halted = m.books.halted
  ended : ∀ j state, m.books.stateOf j = some state → state.isTerminal = true →
    m'.books.stateOf j = some state

theorem Keeps.congr (timeline : m'.timeline = m.timeline) (errors : m'.errors = m.errors)
    (books : m'.books = m.books) : Keeps m m' where
  frame := by
    rw [books]
    exact ⟨rfl, rfl, rfl⟩
  timeline := ⟨[], by rw [timeline, List.append_nil], fun _ _ => List.not_mem_nil⟩
  errors := ⟨[], by rw [errors, List.append_nil]⟩
  halted := fun _ => by rw [books]
  ended := by
    intro j state found _
    rw [books, found]

theorem Keeps.refl (m : Machine σ) : Keeps m m := .congr rfl rfl rfl

theorem Keeps.trans {m₁ : Machine σ} (h : Keeps m m₁) (h' : Keeps m₁ m') : Keeps m m' where
  frame := h.frame.trans h'.frame
  timeline := by
    obtain ⟨first, eq, quiet⟩ := h.timeline
    obtain ⟨rest, eq', quiet'⟩ := h'.timeline
    refine ⟨first ++ rest, by rw [eq', eq, List.append_assoc], fun closed j mem => ?_⟩
    rcases List.mem_append.mp mem with before | after
    · exact quiet closed j before
    · exact quiet' (by rw [h.halted closed, closed]) j after
  errors := h.errors.trans h'.errors
  halted := fun closed => (h'.halted (by rw [h.halted closed, closed])).trans (h.halted closed)
  ended := fun j state found terminal => h'.ended j state (h.ended j state found terminal) terminal

/-- Nothing is started by a halt, nor by books that have no next job. -/
theorem Keeps.withBooks {seen : Bool} {books : Books} (frame : Books.SameFrame m.books books)
    (halted : m.books.halted.isSome = true → books.halted = m.books.halted)
    (skips : Books.SkipsBut (fun _ => False) m.books books) :
    Keeps m { m with seen, books } where
  frame := frame
  timeline := ⟨[], (List.append_nil _).symm, fun _ _ => List.not_mem_nil⟩
  errors := List.prefix_refl _
  halted := halted
  ended := fun _ _ => skips.ended id

theorem Kept.keeps_noticed (kept : Kept deps m) {books : Books}
    (halted : m.books.halt .cancelled = .ok books) : Keeps m { m with seen := true, books } := by
  have halts := kept.sound.halts halted
  exact .withBooks halts.frame
    (fun before => halts.halted.trans (Option.or_of_isSome before)) halts.skips

theorem Kept.keeps_dispatched (kept : Kept deps m) {books : Books} {job : Nat}
    {slots : List (Slot σ)} {queue tokens : List Nat}
    (next : m.books.nextDispatch = .ok (some job, books)) :
    Keeps m { m with books, slots, queue, tokens, timeline := m.timeline ++ [.started job] } := by
  have answered := kept.sound.answered next
  have begins := answered.begins job rfl
  have unhalted : ¬ m.books.halted.isSome = true := by
    rw [begins.unhalted]
    nofun
  refine ⟨answered.frame, ⟨[.started job], rfl, fun closed => absurd closed unhalted⟩,
    List.prefix_refl _, fun closed => absurd closed unhalted, fun j state found terminal => ?_⟩
  refine answered.skips.ended ?_ found terminal
  rintro same
  cases same
  rw [begins.pending] at found
  cases found
  cases terminal

theorem Kept.keeps_recorded (kept : Kept deps m) {books : Books} {job : Nat} {c : Conclusion}
    {rest : List (Nat × Conclusion)} (conclusions : m.conclusions = (job, c) :: rest)
    (complete : m.books.complete job c.outcome = .ok books) :
    Keeps m { m with
      conclusions := rest
      busy := true
      books
      errors := m.errors ++ c.error?.toList
      timeline := m.timeline ++ [.recorded job c.outcome] } := by
  have completes := kept.completes conclusions complete
  refine ⟨completes.frame, ⟨[.recorded job c.outcome], rfl, fun _ j mem => ?_⟩,
    List.prefix_append _ _, fun closed => ?_, fun j state found terminal => ?_⟩
  · cases List.mem_singleton.mp mem
  · show books.halted = m.books.halted
    rw [completes.halted]
    split
    · exact Option.or_of_isSome closed
    · rfl
  · refine completes.skips.ended ?_ found terminal
    rintro rfl
    rw [kept.running_head conclusions] at found
    cases found
    cases terminal

theorem Kept.keeps_quiet (kept : Kept deps m) (quiet : Quiet m m') : Keeps m m' := by
  cases quiet with
  | turned | rested | passed | arrived | passedOver => exact .congr rfl rfl rfl
  | sampled =>
    unfold sample
    split <;> exact .congr rfl rfl rfl
  | woken job =>
    unfold Machine.wake
    split <;> exact .congr rfl rfl rfl
  | noticed _ halted =>
    exact kept.keeps_noticed halted
  | waited next =>
    have answered := kept.sound.answered next
    exact .withBooks answered.frame (fun _ => answered.halted) answered.skips_none
  | dispatched next => exact kept.keeps_dispatched next
  | forgone next gone => exact (kept.not_gone next gone).elim
  | recorded conclusions complete => exact kept.keeps_recorded conclusions complete

theorem Kept.keeps_move (kept : Kept deps m) (move : Move m m') : Keeps m m' := by
  cases move with
  | quiet quiet => exact kept.keeps_quiet quiet
  | @polled job rest body polls =>
    obtain ⟨books, errors, timeline, _⟩ := m.ranOn_records job rest body
    exact .congr timeline errors books

theorem Kept.keeps (kept : Kept deps m) (h : Reaches m m') : Keeps m m' := by
  induction h with
  | refl => exact .refl m
  | tail reached move ih => exact ih.trans ((kept.reaches reached).keeps_move move)

end Machine

end KeyFlow
