import KeyFlow.Proofs.Run.Finished
import Mathlib.Order.WellFounded

/-!
What happened in a run. A run is one line of steps, so what is true of two of its moments is true of
one before the other; and since a slot never comes back to where it was, each body begins at most
once and ends at most once.
-/

namespace KeyFlow

namespace Machine

variable {σ : Type} {start m m' : Machine σ} {deps : List (List Nat)}

/-- The body of the job runs for the first time. -/
def Begins (start m : Machine σ) (job : Nat) : Prop :=
  Comes start m ∧ m.busy = false ∧
    ∃ rest body, m.Polls job rest body ∧ start.slots[job]? = some (.fresh body)

/-- The body of the job comes to this end. -/
def EndsWith (start : Machine σ) (job : Nat) (c : Conclusion) : Prop :=
  ∃ m rest body, Comes start m ∧ m.busy = false ∧ m.Polls job rest body ∧
    (body.advance (m.world job)).1 = .ended c

/-! ## One line of steps -/

theorem Comes.linear (h : Comes start m) (h' : Comes start m') : Comes m m' ∨ Comes m' m :=
  Relation.ReflTransGen.total_of_right_unique
    (fun _ _ _ one other => Except.ok.inj (one.symm.trans other)) h h'

/-- What the steps of a run keep holds at all times. -/
theorem Comes.keeps {P : Machine σ → Prop} (quiet : ∀ m m', P m → Quiet m m' → P m')
    (polled : ∀ m job rest body, Comes start m → m.busy = false → m.Polls job rest body →
      P m → P (m.ranOn job rest body)) (h : Comes start m) (base : P start) : P m := by
  induction h with
  | refl => exact base
  | tail comes step ih =>
    rcases step_cases step with quietly | ⟨job, rest, body, resting, polls, quietly⟩
    · exact quietly.keeps quiet ih
    · exact quietly.keeps quiet (polled _ job rest body comes resting polls ih)

/-- A run stops in a step. -/
theorem run_comes {stop : Stop σ} (h : start.run = stop) :
    ∃ m, Comes start m ∧ m.step = .error stop := by
  fun_induction run start with
  | case1 m m' step ih =>
    obtain ⟨last, comes, stops⟩ := ih h
    exact ⟨last, .head step comes, stops⟩
  | case2 m stop' step => exact ⟨m, .refl, h ▸ step⟩

/-- No run meets a fault. -/
theorem Kept.run_ne_fault (kept : Kept deps start) (fault : Fault) : start.run ≠ .fault fault := by
  intro run
  obtain ⟨m, comes, stops⟩ := run_comes run
  rcases (kept.reaches comes.reaches).step_stops stops with ⟨_, _, no, _⟩ | ⟨_, no | no⟩ <;>
    cases no

/-- What the steps of a run keep holds at the end of a run that finished. -/
theorem Kept.run_keeps {P : Machine σ → Prop} (kept : Kept deps start)
    (quiet : ∀ m m', Reaches start m → Quiet m m' → P m → P m')
    (polled : ∀ m job rest body, Comes start m → m.busy = false → m.Polls job rest body →
      P m → P (m.ranOn job rest body)) {last : Machine σ} (run : start.run = .finished last)
    (base : P start) : P last := by
  obtain ⟨m, comes, stops⟩ := run_comes run
  have quiet' (m m' : Machine σ) (h : Reaches start m ∧ P m) (move : Quiet m m') :
      Reaches start m' ∧ P m' :=
    ⟨.trans h.1 (.single (.quiet move)), quiet m m' h.1 move h.2⟩
  have before : Reaches start m ∧ P m := by
    refine comes.keeps quiet' ?_ ⟨.refl start, base⟩
    rintro m job rest body comes resting polls ⟨reached, h⟩
    exact ⟨.trans reached (.single (.polled polls)),
      polled m job rest body comes resting polls h⟩
  exact (((kept.reaches comes.reaches).step_finished stops).1.keeps quiet' before).2

/-- What goes on comes before the stop. -/
theorem Comes.before_stop {last : Machine σ} {stop : Stop σ} (h : Comes start m)
    (step : m.step = .ok m') (h' : Comes start last) (stops : last.step = .error stop) :
    Comes m' last := by
  have before : Comes m last := by
    refine (h.linear h').resolve_right fun after => ?_
    rcases Relation.ReflTransGen.cases_head after with rfl | ⟨_, goesOn, _⟩
    · rw [step] at stops
      cases stops
    · rw [goesOn] at stops
      cases stops
  rcases Relation.ReflTransGen.cases_head before with rfl | ⟨m₁, step', rest⟩
  · rw [step] at stops
    cases stops
  · rw [step] at step'
    cases step'
    exact rest

/-! ## Slots -/

/-- A quiet move wakes or starts a body, but does not let it run. -/
theorem Quiet.slot (quiet : Quiet m m') (i : Nat) : m'.slots[i]? = m.slots[i]? ∨
    ∃ old new, m.slots[i]? = some old ∧ m'.slots[i]? = some new ∧ Slot.Moved new old ∧
      ∀ body, old ≠ .queued body := by
  cases quiet with
  | turned | rested | passed | arrived | passedOver | noticed | waited | forgone | recorded =>
    exact .inl rfl
  | sampled =>
    left
    unfold sample
    split <;> rfl
  | woken job =>
    unfold wake
    split
    case h_3 => exact .inl rfl
    case' h_1 wakeAt next found => have moved := Slot.Moved.woke wakeAt m.clock next
    case' h_2 next found => have moved := Slot.Moved.resumed m.clock next
    all_goals
      by_cases same : i = job
      · subst same
        exact .inr ⟨_, _, found, slot_set_self found rfl, moved, nofun⟩
      · exact .inl (slot_set_ne (m := m) rfl same)
  | @dispatched books job body next found =>
    by_cases same : i = job
    · subst same
      exact .inr ⟨_, _, found, slot_set_self (m := m) found rfl, .start body, nofun⟩
    · exact .inl (slot_set_ne (m := m) rfl same)

theorem ranOn_slots (m : Machine σ) (job : Nat) (rest : List Nat) (body : JobBody σ) :
    (m.ranOn job rest body).slots =
      m.slots.set job (slotAfter m.clock (body.advance (m.world job)).1) := by
  rw [ranOn, left]
  cases (body.advance (m.world job)).1 <;> rfl

theorem ranOn_rest (m : Machine σ) (job : Nat) (rest : List Nat) (body : JobBody σ) :
    (m.ranOn job rest body).sampling = m.sampling ∧
      (m.ranOn job rest body).shared = (body.advance (m.world job)).2.shared := by
  rw [ranOn, left]
  cases (body.advance (m.world job)).1 <;> exact ⟨rfl, rfl⟩

theorem Polls.slot_after {job : Nat} {rest : List Nat} {body : JobBody σ}
    (polls : m.Polls job rest body) : ∃ new, (m.ranOn job rest body).slots[job]? = some new ∧
      Slot.Moved new (.queued body) :=
  ⟨_, slot_set_self polls.slot (m.ranOn_slots job rest body), moved_slotAfter body _ m.clock⟩

/-- The slot stays where it is or moves on. -/
def SlotBelow (i : Nat) (slot : Slot σ) (m : Machine σ) : Prop :=
  ∃ now, m.slots[i]? = some now ∧ Relation.ReflTransGen Slot.Moved now slot

theorem SlotBelow.quiet {i : Nat} {slot : Slot σ} (below : SlotBelow i slot m)
    (quiet : Quiet m m') : SlotBelow i slot m' := by
  obtain ⟨now, found, moved⟩ := below
  rcases quiet.slot i with same | ⟨old, new, found', after, move, _⟩
  · exact ⟨now, same.trans found, moved⟩
  · rw [found, Option.some.injEq] at found'
    subst found'
    exact ⟨new, after, .head move moved⟩

theorem SlotBelow.polled {i job : Nat} {rest : List Nat} {slot : Slot σ} {body : JobBody σ}
    (below : SlotBelow i slot m) (polls : m.Polls job rest body) :
    SlotBelow i slot (m.ranOn job rest body) := by
  obtain ⟨now, found, moved⟩ := below
  by_cases same : i = job
  · subst same
    obtain ⟨new, after, move⟩ := polls.slot_after
    rw [polls.slot, Option.some.injEq] at found
    subst found
    exact ⟨new, after, .head move moved⟩
  · exact ⟨now, (slot_set_ne (m.ranOn_slots job rest body) same).trans found, moved⟩

theorem Comes.slotBelow (h : Comes m m') {i : Nat} {slot : Slot σ} (below : SlotBelow i slot m) :
    SlotBelow i slot m' :=
  h.keeps (fun _ _ below quiet => below.quiet quiet)
    (fun _ _ _ _ _ _ polls below => below.polled polls) below

/-- What every move of a slot keeps, all slots keep. -/
theorem Reaches.slots {P : Slot σ → Prop} (moved : ∀ new old, Slot.Moved new old → P old → P new)
    (h : Reaches m m') (all : ∀ (i : Nat) slot, m.slots[i]? = some slot → P slot) :
    ∀ (i : Nat) slot, m'.slots[i]? = some slot → P slot := by
  refine h.keeps (P := fun m => ∀ (i : Nat) slot, m.slots[i]? = some slot → P slot) ?_ all
  intro m m' all move i slot found
  cases move with
  | quiet quiet =>
    rcases quiet.slot i with same | ⟨old, new, before, after, move, _⟩
    · exact all i slot (same ▸ found)
    · rw [after, Option.some.injEq] at found
      exact found ▸ moved new old move (all i old before)
  | @polled job rest body polls =>
    by_cases same : i = job
    · subst same
      obtain ⟨new, after, move⟩ := polls.slot_after
      rw [after, Option.some.injEq] at found
      exact found ▸ moved new _ move (all i _ polls.slot)
    · exact all i slot ((slot_set_ne (m.ranOn_slots job rest body) same).symm.trans found)

/-- From then on the slot of a body that ran is where the body left it, or further. -/
theorem Polls.slotBelow {job : Nat} {rest : List Nat} {body : JobBody σ}
    (polls : m.Polls job rest body) (resting : m.busy = false) {next : Machine σ}
    (step : m.step = .ok next) (h : Comes next m') :
    SlotBelow job (slotAfter m.clock (body.advance (m.world job)).1) m' := by
  obtain ⟨next', step', quietly⟩ := step_of_polls resting polls
  rw [step] at step'
  cases step'
  exact h.slotBelow (quietly.keeps (fun _ _ below quiet => below.quiet quiet)
    ⟨_, slot_set_self polls.slot (m.ranOn_slots job rest body), .refl⟩)

/-- A body that ran is never again what it was. -/
theorem Polls.never_again {job : Nat} {rest : List Nat} {body : JobBody σ}
    (polls : m.Polls job rest body) (resting : m.busy = false) {next : Machine σ}
    (step : m.step = .ok next) (h : Comes next m') {now : Slot σ}
    (found : m'.slots[job]? = some now) : Relation.TransGen Slot.Moved now (.queued body) := by
  obtain ⟨now', found', moved⟩ := polls.slotBelow resting step h
  rw [found, Option.some.injEq] at found'
  subst found'
  exact .tail' moved (moved_slotAfter body _ m.clock)

theorem queued_not_below_spent {body : JobBody σ} :
    ¬ Relation.ReflTransGen Slot.Moved (.queued body) .spent := by
  intro moved
  rcases Relation.ReflTransGen.cases_tail moved with same | ⟨_, _, no⟩
  · cases same
  · cases no

/-- A body ran before its slot is spent. -/
theorem Polls.before_spent {job : Nat} {rest : List Nat} {body : JobBody σ}
    (polls : m.Polls job rest body) (h : Comes start m) (h' : Comes start m')
    (spent : m'.slots[job]? = some .spent) : ∃ next, m.step = .ok next ∧ Comes next m' := by
  rcases h.linear h' with before | after
  · rcases Relation.ReflTransGen.cases_head before with rfl | goesOn
    · rw [polls.slot] at spent
      cases spent
    · exact goesOn
  · obtain ⟨now, found, moved⟩ := after.slotBelow ⟨_, spent, .refl⟩
    rw [polls.slot, Option.some.injEq] at found
    subst found
    exact absurd moved queued_not_below_spent

theorem slot_irrefl (slot : Slot σ) : ¬ Relation.TransGen Slot.Moved slot slot :=
  Slot.moved_wf.transGen.irrefl.irrefl slot

/-- A body begins once. -/
theorem Begins.unique {job : Nat} (h : start.Begins m job) (h' : start.Begins m' job) : m = m' := by
  have later {m m' : Machine σ} (h : start.Begins m job) (h' : start.Begins m' job)
      (before : Comes m m') : m = m' := by
    obtain ⟨_, resting, rest, body, polls, fresh⟩ := h
    obtain ⟨_, _, rest', body', polls', fresh'⟩ := h'
    rw [fresh, Option.some.injEq, Slot.fresh.injEq] at fresh'
    subst fresh'
    rcases Relation.ReflTransGen.cases_head before with same | ⟨next, step, after⟩
    · exact same
    · exact absurd (polls.never_again resting step after polls'.slot) (slot_irrefl _)
  rcases h.1.linear h'.1 with before | after
  · exact later h h' before
  · exact (later h' h after).symm

/-- A body runs when all that its job depends on has succeeded. -/
theorem Kept.dependencies (kept : Kept deps m) {job : Nat} {rest : List Nat} {body : JobBody σ}
    (polls : m.Polls job rest body) :
    ∀ d ∈ deps[job]?.getD [], m.books.stateOf d = some .succeeded := by
  have running := (kept.running job).mpr (.inl (isLive_of_slot polls.slot))
  obtain ⟨e, entry, state⟩ := Books.entry_of_stateOf running
  exact kept.sound.tied.begun job e entry (by rw [state]; rfl)

/-- A body comes to one end. -/
theorem EndsWith.unique {job : Nat} {c c' : Conclusion} (h : start.EndsWith job c)
    (h' : start.EndsWith job c') : c = c' := by
  have later {m m' : Machine σ} {rest rest' : List Nat} {body body' : JobBody σ} {c c' : Conclusion}
      (resting : m.busy = false) (polls : m.Polls job rest body)
      (ended : (body.advance (m.world job)).1 = .ended c) (polls' : m'.Polls job rest' body')
      (ended' : (body'.advance (m'.world job)).1 = .ended c') (before : Comes m m') : c = c' := by
    rcases Relation.ReflTransGen.cases_head before with rfl | ⟨next, step, after⟩
    · have same : body = body' := by simpa [polls.slot] using polls'.slot
      subst same
      exact Pause.ended.inj (ended.symm.trans ended')
    · obtain ⟨now, found, moved⟩ := polls.slotBelow resting step after
      rw [polls'.slot, Option.some.injEq] at found
      rw [ended, ← found] at moved
      exact absurd moved queued_not_below_spent
  obtain ⟨m, rest, body, comes, resting, polls, ended⟩ := h
  obtain ⟨m', rest', body', comes', resting', polls', ended'⟩ := h'
  rcases comes.linear comes' with before | after
  · exact later resting polls ended polls' ended' before
  · exact (later resting' polls' ended' polls ended after).symm

/-- How far the body of a job is. -/
inductive Underway (start : Machine σ) (job : Nat) (body : JobBody σ) (m : Machine σ) : Prop where
  | fresh (slot : m.slots[job]? = some (.fresh body))
  | queued (slot : m.slots[job]? = some (.queued body))
  | begun {m₁ : Machine σ} (begins : start.Begins m₁ job) (moved : ∀ now, m.slots[job]? = some now →
    Relation.TransGen Slot.Moved now (.queued body))

theorem Underway.quiet {job : Nat} {body : JobBody σ} (underway : Underway start job body m)
    (quiet : Quiet m m') : Underway start job body m' := by
  rcases quiet.slot job with same | ⟨old, new, found, after, move, unqueued⟩
  · cases underway with
    | fresh slot => exact .fresh (same.trans slot)
    | queued slot => exact .queued (same.trans slot)
    | begun begins moved => exact .begun begins fun now found => moved now (same ▸ found)
  · cases underway with
    | fresh slot =>
      rw [slot, Option.some.injEq] at found
      subst found
      cases move
      exact .queued after
    | queued slot =>
      rw [slot, Option.some.injEq] at found
      exact absurd found.symm (unqueued body)
    | begun begins moved =>
      refine .begun begins fun now found' => ?_
      rw [after, Option.some.injEq] at found'
      exact .head (found' ▸ move) (moved old found)

theorem Underway.polled {job job' : Nat} {rest : List Nat} {body body' : JobBody σ}
    (underway : Underway start job body m) (fresh : start.slots[job]? = some (.fresh body))
    (comes : Comes start m) (resting : m.busy = false) (polls : m.Polls job' rest body') :
    Underway start job body (m.ranOn job' rest body') := by
  by_cases same : job' = job
  · subst same
    obtain ⟨new, after, move⟩ := polls.slot_after
    have moved {slot : Slot σ} (below : Relation.ReflTransGen Slot.Moved (.queued body') slot) :
        ∀ now, (m.ranOn job' rest body').slots[job']? = some now →
          Relation.TransGen Slot.Moved now slot := by
      intro now found
      rw [after, Option.some.injEq] at found
      exact .head' (found ▸ move) below
    cases underway with
    | fresh slot =>
      rw [polls.slot] at slot
      cases slot
    | queued slot =>
      rw [polls.slot, Option.some.injEq, Slot.queued.injEq] at slot
      subst slot
      exact .begun ⟨comes, resting, rest, body', polls, fresh⟩ (moved .refl)
    | begun begins below => exact .begun begins (moved (below _ polls.slot).to_reflTransGen)
  · have same := slot_set_ne (m.ranOn_slots job' rest body') (Ne.symm same)
    cases underway with
    | fresh slot => exact .fresh (same.trans slot)
    | queued slot => exact .queued (same.trans slot)
    | begun begins moved => exact .begun begins fun now found => moved now (same ▸ found)

theorem Comes.underway (h : Comes start m) {job : Nat} {body : JobBody σ}
    (fresh : start.slots[job]? = some (.fresh body)) : Underway start job body m :=
  h.keeps (fun _ _ underway quiet => underway.quiet quiet)
    (fun _ _ _ _ comes resting polls underway => underway.polled fresh comes resting polls)
    (.fresh fresh)

/-- A body that runs has begun. -/
theorem Polls.begins {job : Nat} {rest : List Nat} {body first : JobBody σ}
    (polls : m.Polls job rest body) (h : Comes start m) (resting : m.busy = false)
    (fresh : start.slots[job]? = some (.fresh first)) : ∃ m', start.Begins m' job := by
  cases h.underway fresh with
  | fresh slot =>
    rw [polls.slot] at slot
    cases slot
  | queued slot =>
    rw [polls.slot, Option.some.injEq, Slot.queued.injEq] at slot
    subst slot
    exact ⟨m, h, resting, rest, body, polls, fresh⟩
  | begun begins => exact ⟨_, begins⟩

theorem Reaches.length (h : Reaches m m') : m'.slots.length = m.slots.length := by
  refine h.keeps (P := fun m' => m'.slots.length = m.slots.length) (fun m₁ m₂ same move => ?_) rfl
  rw [← same]
  cases move with
  | @polled job rest body polls => rw [ranOn_slots, List.length_set]
  | quiet quiet =>
    cases quiet with
    | woken job =>
      unfold wake
      split <;> first | rfl | exact List.length_set
    | sampled =>
      unfold sample
      split <;> rfl
    | dispatched => exact List.length_set
    | _ => rfl

/-- A job that has its turn was there at the start. -/
theorem Polls.slot_at_start {rest : List Nat} {body : JobBody σ} (polls : m.Polls job rest body)
    (comes : Comes start m) : ∃ slot, start.slots[job]? = some slot := by
  have inRange := (List.getElem?_eq_some_iff.mp polls.slot).1
  rw [comes.reaches.length] at inRange
  exact ⟨_, List.getElem?_eq_getElem inRange⟩

end Machine

end KeyFlow
