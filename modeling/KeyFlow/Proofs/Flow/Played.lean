import KeyFlow.Proofs.Flow.Cast
import KeyFlow.Proofs.Run.Finished

/-!
A run in which every job plays its part. What is left of a body that was started plays the rest of
its part, whatever was polled before it, and so the run comes to an end that depends on the parts
alone.
-/

namespace KeyFlow

/-- What is left of a job plays the rest of its part. -/
def Cast.SlotPlays (c : Cast) (j : Nat) (cancelled written : Bool) : Slot FlowState → Prop
  | .fresh body => c.bodies[j]? = some body ∧ written = false ∧ cancelled = false
  | .queued body => ∃ p, c.part j = some p ∧ p.Plays cancelled written body
  | .asleep _ next => ∃ p, c.part j = some p ∧ ∀ t, p.Plays cancelled written (next t)
  | .awaiting _ => False
  | .spent => True

namespace Machine

variable {c : Cast} {written : Nat → Bool} {m m' : Machine FlowState}

/-- The run of a cast in which the jobs in `written` have left their marks. -/
structure Played (c : Cast) (written : Nat → Bool) (m : Machine FlowState) : Prop where
  cancelled : m.cancelled = false
  seen : m.seen = false
  cancelAt : m.cancelAt = none
  deadline : m.deadline = none
  /-- Samples are told to the sinks only. -/
  sampling : ∀ s, m.sampling = some s →
    ∀ clock snapshot shared, (s.observe clock snapshot shared).store = shared.store
  holds : c.Holds written m.shared.store
  booked : c.Booked written m.errors m.books
  slot : ∀ (j : Nat) slot, m.slots[j]? = some slot →
    c.SlotPlays j (m.selfCancelled.contains j) (written j) slot
  ended : ∀ j e, (j, e) ∈ m.conclusions → ∃ p, c.part j = some p ∧
    Conclusion.outcome e = p.outcome ∧ (p.outcome = .succeeded → written j = true)

namespace Played

theorem moving (played : Played c written m) : m.Moving where
  deadline := played.deadline
  awake := fun i _ found => played.slot i _ found

theorem sampled (played : Played c written m) : Played c written m.sample := by
  unfold sample
  split
  · rename_i s sampling
    have same := played.sampling s sampling
    refine ⟨played.cancelled, played.seen, played.cancelAt, played.deadline, ?_, ?_,
      played.booked, played.slot, played.ended⟩
    · rintro s' ⟨⟩
      exact same
    · show c.Holds written (s.observe m.clock m.books.snapshot m.shared).store
      rw [same]
      exact played.holds
  · exact played

theorem wake (played : Played c written m) (job : Nat) : Played c written (m.wake job) := by
  unfold Machine.wake
  split
  · rename_i wakeAt next found
    refine ⟨played.cancelled, played.seen, played.cancelAt, played.deadline, played.sampling,
      played.holds, played.booked, ?_, played.ended⟩
    intro j slot placed
    by_cases same : j = job
    · subst same
      rw [slot_set_self (m := m) found rfl] at placed
      cases placed
      obtain ⟨p, part, plays⟩ := played.slot j _ found
      exact ⟨p, part, plays m.clock⟩
    · rw [slot_set_ne (m := m) rfl same] at placed
      exact played.slot j slot placed
  · rename_i found
    exact (played.slot job _ found).elim
  · exact played

/-- A job that is started may start, so it has a part. -/
theorem dispatched (played : Played c written m) (kept : Kept c.deps m) (fits : c.Fits)
    {books : Books} {job : Nat} {body : JobBody FlowState}
    (next : m.books.nextDispatch = .ok (some job, books))
    (found : m.slots[job]? = some (.fresh body)) :
    Played c written { m with
      books
      slots := m.slots.set job (.queued body)
      queue := m.queue ++ [job]
      tokens := m.tokens ++ [job]
      timeline := m.timeline ++ [.started job] } := by
  have answered := kept.sound.answered next
  have succeeded := (answered.begins job rfl).succeeded
  refine ⟨played.cancelled, played.seen, played.cancelAt, played.deadline, played.sampling,
    played.holds, played.booked.answered answered, ?_, played.ended⟩
  intro j slot placed
  by_cases same : j = job
  · subst same
    rw [slot_set_self (m := m) found rfl] at placed
    cases placed
    obtain ⟨own, fresh, notCancelled⟩ := played.slot j _ found
    obtain ⟨p, part, plays⟩ := fits.plays j body own fun d dependency =>
      ((played.booked.ended d _ (succeeded d dependency)).1 rfl).1
    rw [notCancelled, fresh]
    exact ⟨p, part, plays⟩
  · rw [slot_set_ne (m := m) rfl same] at placed
    exact played.slot j slot placed

theorem waited (played : Played c written m) (kept : Kept c.deps m) {books : Books}
    (next : m.books.nextDispatch = .ok (none, books)) : Played c written { m with books } := by
  have booked := played.booked.answered (kept.sound.answered next)
  exact ⟨played.cancelled, played.seen, played.cancelAt, played.deadline, played.sampling,
    played.holds, booked, played.slot, played.ended⟩

theorem recorded (played : Played c written m) (kept : Kept c.deps m) {books : Books} {job : Nat}
    {e : Conclusion} {rest : List (Nat × Conclusion)}
    (conclusions : m.conclusions = (job, e) :: rest)
    (complete : m.books.complete job e.outcome = .ok books) :
    Played c written { m with
      conclusions := rest
      busy := true
      books
      errors := m.errors ++ e.error?.toList
      timeline := m.timeline ++ [.recorded job e.outcome] } := by
  have mem : (job, e) ∈ m.conclusions := by
    rw [conclusions]
    exact List.mem_cons_self ..
  have running := kept.running_head conclusions
  have completes := kept.completes conclusions complete
  obtain ⟨p, part, foreseen, wrote⟩ := played.ended job e mem
  refine ⟨played.cancelled, played.seen, played.cancelAt, played.deadline, played.sampling,
    played.holds, ?_, played.slot, ?_⟩
  · exact played.booked.complete part foreseen wrote running completes
  · intro j e' mem'
    exact played.ended j e' (conclusions ▸ List.mem_cons_of_mem _ mem')

/-- A body that runs on until it pauses has perhaps left its marks. -/
theorem advanced (played : Played c written m) (kept : Kept c.deps m) (fits : c.Fits) {job : Nat}
    {body : JobBody FlowState} (found : m.slots[job]? = some (.queued body)) :
    ∃ p now, c.part job = some p ∧ (written job = true → now = true) ∧
      c.Holds (fun i => if i = job then now else written i)
        (body.advance (m.world job)).2.shared.store ∧
      (body.advance (m.world job)).2.cancelled = false ∧
      (m.selfCancelled.contains job = true → (body.advance (m.world job)).2.ownCancelled = true) ∧
      p.PlaysAt (body.advance (m.world job)).2.ownCancelled now (body.advance (m.world job)).1 := by
  obtain ⟨p, part, plays⟩ := played.slot job _ found
  have running := (kept.running job).mpr (.inl (isLive_of_slot found))
  obtain ⟨x, entry, isRunning⟩ := Books.entry_of_stateOf running
  have succeeded := kept.sound.tied.begun job x entry (by rw [isRunning]; rfl)
  have agrees := played.booked.agrees fits played.holds part succeeded
  obtain ⟨now, calm, own, placed, left⟩ := plays.advance (w := m.world job) played.cancelled rfl
    fun fresh => ⟨agrees, played.holds.awaits fits part fresh⟩
  refine ⟨p, now, part, ?_, ?_, calm, own, placed⟩
  · rcases left with ⟨still, _⟩ | ⟨_, now, _⟩
    · exact still.trans
    · exact fun _ => now
  · rcases left with ⟨still, same⟩ | ⟨fresh, now, wrote⟩
    · have unchanged : (fun i => if i = job then now else written i) = written := by
        funext i
        split
        · rename_i here
          rw [here, still]
        · rfl
      rw [same, unchanged]
      exact played.holds
    · rw [now]
      exact played.holds.write fits part fresh wrote

/-- A body that paused plays the rest of its part from there. -/
theorem slots_left (played : Played c written m) {job : Nat} {old slot : Slot FlowState} {p : Part}
    {now : Bool} {pause : Pause FlowState} {w : World FlowState}
    (found : m.slots[job]? = some old) (part : c.part job = some p)
    (own : m.selfCancelled.contains job = true → w.ownCancelled = true)
    (placed : p.PlaysAt w.ownCancelled now pause) {j : Nat}
    (left : (m.slots.set job (slotAfter m.clock pause))[j]? = some slot) :
    c.SlotPlays j ((if w.ownCancelled then job :: m.selfCancelled
      else m.selfCancelled).contains j) (if j = job then now else written j) slot := by
  by_cases same : j = job
  · subst same
    have cancelled : (if w.ownCancelled then j :: m.selfCancelled
        else m.selfCancelled).contains j = w.ownCancelled := by
      cases h : w.ownCancelled with
      | true => simp
      | false =>
        rw [if_neg nofun]
        by_contra before
        rw [own (by simpa using before)] at h
        cases h
    rw [List.getElem?_set_self (List.getElem?_eq_some_iff.mp found).1] at left
    cases left
    rw [cancelled, if_pos rfl]
    cases pause with
    | ended e => trivial
    | asleep millis next => exact ⟨p, part, placed⟩
    | awaiting next => exact placed
  · have others : (if w.ownCancelled then job :: m.selfCancelled
        else m.selfCancelled).contains j = m.selfCancelled.contains j := by
      split
      · rw [List.contains_cons, beq_false_of_ne same, Bool.false_or]
      · rfl
    rw [List.getElem?_set_ne (Ne.symm same)] at left
    rw [others, if_neg same]
    exact played.slot j slot left

/-- A body that is polled plays on. -/
theorem polled (played : Played c written m) (kept : Kept c.deps m) (fits : c.Fits) {job : Nat}
    {rest : List Nat} {body : JobBody FlowState} (found : m.slots[job]? = some (.queued body)) :
    ∃ written', Played c written' (left { m with queue := rest } job
      (body.advance (m.world job)).1 (body.advance (m.world job)).2) := by
  obtain ⟨p, now, part, more, holds, calm, own, placed⟩ := played.advanced kept fits found
  generalize body.advance (m.world job) = paused at *
  obtain ⟨pause, w⟩ := paused
  refine ⟨fun i => if i = job then now else written i, ?_⟩
  have grows (i : Nat) (h : written i = true) : (if i = job then now else written i) = true := by
    split
    · rename_i here
      exact more (here ▸ h)
    · exact h
  have booked := played.booked.mono grows
  have slots (j : Nat) (slot : Slot FlowState)
      (left : (m.slots.set job (slotAfter m.clock pause))[j]? = some slot) :=
    played.slots_left found part own placed left
  have before (j : Nat) (e : Conclusion) (mem : (j, e) ∈ m.conclusions) : ∃ q,
      c.part j = some q ∧ Conclusion.outcome e = q.outcome ∧
        (q.outcome = .succeeded → (if j = job then now else written j) = true) := by
    obtain ⟨q, part', foreseen, wrote⟩ := played.ended j e mem
    exact ⟨q, part', foreseen, fun succeeds => grows j (wrote succeeds)⟩
  cases pause with
  | ended e =>
    refine ⟨calm, played.seen, played.cancelAt, played.deadline, played.sampling, holds, booked,
      slots, fun j e' mem => ?_⟩
    rcases List.mem_append.mp mem with old | new
    · exact before j e' old
    · rw [List.mem_singleton] at new
      cases new
      exact ⟨p, part, placed.1, fun succeeds => by rw [if_pos rfl]; exact placed.2.mpr succeeds⟩
  | asleep | awaiting =>
    exact ⟨calm, played.seen, played.cancelAt, played.deadline, played.sampling, holds, booked,
      slots, before⟩

theorem move (played : Played c written m) (kept : Kept c.deps m) (fits : c.Fits)
    (move : Move m m') : ∃ written', Played c written' m' := by
  cases move with
  | polled polls => exact played.polled kept fits polls.slot
  | quiet quiet =>
    cases quiet with
    | turned | rested | passed | passedOver =>
      exact ⟨written, played.cancelled, played.seen, played.cancelAt, played.deadline,
        played.sampling, played.holds, played.booked, played.slot, played.ended⟩
    | sampled => exact ⟨written, played.sampled⟩
    | arrived planned =>
      rw [played.cancelAt] at planned
      cases planned
    | woken job => exact ⟨written, played.wake job⟩
    | noticed cancelled =>
      rw [played.cancelled] at cancelled
      cases cancelled
    | waited next => exact ⟨written, played.waited kept next⟩
    | dispatched next found => exact ⟨written, played.dispatched kept fits next found⟩
    | forgone next gone => exact (kept.not_gone next gone).elim
    | recorded conclusions complete =>
      exact ⟨written, played.recorded kept conclusions complete⟩

theorem reaches (played : Played c written m) (kept : Kept c.deps m) (fits : c.Fits)
    (h : Reaches m m') : ∃ written', Played c written' m' := by
  have both : Kept c.deps m' ∧ ∃ written', Played c written' m' := by
    refine h.keeps (P := fun m => Kept c.deps m ∧ ∃ written, Played c written m) ?_
      ⟨kept, written, played⟩
    rintro m₁ m₂ ⟨kept, written, played⟩ step
    exact ⟨kept.move step, played.move kept fits step⟩
  exact both.2

/-- The run of a cast finishes. It has no errors just if no part is to fail, and then its store
holds the inputs and the marks of all parts. -/
theorem run_finished (played : Played c written m) (kept : Kept c.deps m) (fits : c.Fits) :
    ∃ m', m.run = .finished m' ∧ (m'.seen = false ∧ m'.cancelled = false) ∧
      (m'.errors = [] ↔ ∀ j p, c.part j = some p → p.outcome ≠ .failed) ∧
      (m'.errors = [] → ∀ k mark, m'.shared.store.mark? k = some mark ↔
        (k, mark) ∈ c.inputs ∨ ∃ j p, c.part j = some p ∧ (k, mark) ∈ p.writes) := by
  obtain ⟨m', run, reached, finished⟩ := kept.run_finished fun m₁ reached => by
    obtain ⟨_, played₁⟩ := played.reaches kept fits reached
    exact played₁.moving
  have kept' := kept.reaches reached
  obtain ⟨written', played'⟩ := played.reaches kept fits reached
  have all : ∀ s ∈ m'.books.states, s.isTerminal = true := by
    rw [Books.isFinished, kept'.sound.unfinished, beq_iff_eq, List.countP_eq_zero] at finished
    intro s mem
    simpa using finished s mem
  have foreseen (fine : m'.errors = []) (j : Nat) (p : Part) (part : c.part j = some p) :=
    played'.booked.foreseen fits kept'.sound all fine j part
  refine ⟨m', run, ⟨played'.seen, played'.cancelled⟩, ⟨?_, ?_⟩, ?_⟩
  · intro fine j p part fails
    have state := foreseen fine j p part
    rw [fails] at state
    exact played'.booked.failed.mp fine j state
  · intro noFailure
    refine played'.booked.failed.mpr fun j failed => ?_
    obtain ⟨p, part, fails⟩ := (played'.booked.ended j _ failed).2.1 rfl
    exact noFailure j p part fails
  · intro fine k mark
    rw [played'.holds.marks]
    refine or_congr Iff.rfl ⟨?_, ?_⟩
    · rintro ⟨j, p, _, part, mem⟩
      exact ⟨j, p, part, mem⟩
    · rintro ⟨j, p, part, mem⟩
      have succeeds : p.outcome = .succeeded := by
        by_contra not
        rw [fits.quiet j p part not] at mem
        cases mem
      have state := foreseen fine j p part
      rw [succeeds] at state
      exact ⟨j, p, ((played'.booked.ended j _ state).1 rfl).2, part, mem⟩

end Played

end Machine

end KeyFlow
