import KeyFlow.Proofs.Jobs.Balanced
import KeyFlow.Proofs.Run.Shut

/-!
The limit of a run. The jobs that were started and are not recorded are as many as the books count,
at every moment of the timeline no more than the limit; and the scheduler does not wait, nor sample
its state, while a job could start and a worker is free.
-/

namespace KeyFlow

def Moment.started? : Moment → Option Nat
  | .started job => some job
  | .recorded .. => none

/-- The jobs that were started and whose ends are not recorded, in the order in which they were
started. -/
def inFlight (moments : List Moment) : List Nat :=
  (moments.filterMap Moment.started?).filter fun j =>
    !(moments.filterMap Moment.recorded?).any (·.1 == j)

example : inFlight [.started 0, .started 1, .recorded 0 .failed, .started 2] = [1, 2] := by decide

theorem mem_inFlight {moments : List Moment} {j : Nat} :
    j ∈ inFlight moments ↔ .started j ∈ moments ∧ ∀ o, .recorded j o ∉ moments := by
  have started : j ∈ moments.filterMap Moment.started? ↔ .started j ∈ moments := by
    rw [List.mem_filterMap]
    constructor
    · rintro ⟨⟨_⟩ | _, mem, is⟩ <;> cases is
      exact mem
    · exact fun mem => ⟨_, mem, rfl⟩
  rw [inFlight, List.mem_filter, started]
  refine and_congr_right fun _ => ?_
  rw [Bool.not_eq_true', List.any_eq_false]
  constructor
  · intro unrecorded o mem
    exact unrecorded (j, o) (List.mem_filterMap.mpr ⟨_, mem, rfl⟩) (beq_self_eq_true j)
  · rintro unrecorded ⟨i, o⟩ mem same
    obtain ⟨⟨_⟩ | _, mem, is⟩ := List.mem_filterMap.mp mem <;> cases is
    exact unrecorded o ((beq_iff_eq.mp same) ▸ mem)

theorem count_started? (moments : List Moment) (j : Nat) :
    (moments.filterMap Moment.started?).count j = moments.count (.started j) := by
  induction moments with
  | nil => rfl
  | cons moment moments ih =>
    cases moment with
    | started job =>
      show (job :: moments.filterMap Moment.started?).count j = _
      rw [List.count_cons, List.count_cons, ih]
      simp
    | recorded job o =>
      rw [List.count_cons, if_neg (by simp)]
      exact ih

namespace Machine

variable {σ : Type} {start m m' : Machine σ} {deps : List (List Nat)}
  {ends : List (Nat × Conclusion)}

/-- A quiet move tells one thing at most, and starts only jobs that are there. -/
theorem Quiet.timeline (quiet : Quiet m m') : m'.timeline = m.timeline ∨
    ∃ moment, m'.timeline = m.timeline ++ [moment] ∧
      ∀ j, moment = .started j → j < m.slots.length := by
  cases quiet with
  | turned | rested | passed | arrived | passedOver | noticed | waited | forgone => exact .inl rfl
  | sampled =>
    left
    unfold sample
    split <;> rfl
  | woken job => exact .inl (Untold.wake m job).timeline
  | @dispatched books job body next slot =>
    refine .inr ⟨.started job, rfl, ?_⟩
    rintro _ ⟨⟩
    exact (List.getElem?_eq_some_iff.mp slot).1
  | @recorded books job c rest => exact .inr ⟨.recorded job c.outcome, rfl, nofun⟩

/-- Only jobs that are there are started. -/
def StartsOwn (m : Machine σ) : Prop := ∀ j, .started j ∈ m.timeline → j < m.slots.length

theorem StartsOwn.quiet (own : StartsOwn m) (quiet : Quiet m m') : StartsOwn m' := by
  intro j mem
  rw [(Reaches.single (.quiet quiet)).length]
  rcases quiet.timeline with same | ⟨moment, told, started⟩
  · exact own j (same ▸ mem)
  · rw [told] at mem
    rcases List.mem_append.mp mem with before | now
    · exact own j before
    · exact started j (List.mem_singleton.mp now).symm

/-- The jobs in flight are those that run in the books. -/
theorem Told.mem_inFlight (told : Told start m ends) (kept : Kept deps m) (own : StartsOwn m)
    {j : Nat} : j ∈ inFlight m.timeline ↔ m.books.stateOf j = some .running := by
  rw [KeyFlow.mem_inFlight]
  constructor
  · rintro ⟨started, unrecorded⟩
    have inRange : j < m.books.jobs.length := kept.length ▸ own j started
    have found := Books.stateOf_eq (List.getElem?_eq_getElem inRange)
    have counted := told.started j _ found
    have was : (m.books.jobs[j]).state.wasStarted = true := by
      by_contra no
      rw [if_neg no] at counted
      exact List.count_eq_zero.mp counted started
    by_cases terminal : (m.books.jobs[j]).state.isTerminal = true
    · obtain ⟨o, is⟩ := JobState.outcome_of_started terminal was
      exact absurd (told.recorded_iff.mpr (found.trans (congrArg some is))) (unrecorded o)
    · rw [found]
      cases state : (m.books.jobs[j]).state with
      | running => rfl
      | pending => rw [state] at was; cases was
      | succeeded | failed | skipped => rw [state] at terminal; exact absurd rfl terminal
  · intro running
    refine ⟨?_, fun o recorded => ?_⟩
    · have counted := told.started j _ running
      exact List.count_pos_iff.mp (by rw [counted]; exact Nat.one_pos)
    · have ended := told.recorded_iff.mp recorded
      rw [running, Option.some.injEq] at ended
      exact o.state_ne_running ended.symm

theorem Told.nodup_inFlight (told : Told start m ends) (kept : Kept deps m) (own : StartsOwn m) :
    (inFlight m.timeline).Nodup := by
  refine List.Nodup.filter _ (List.nodup_iff_count_le_one.mpr fun j => ?_)
  rw [count_started?]
  by_cases mem : .started j ∈ m.timeline
  · have inRange : j < m.books.jobs.length := kept.length ▸ own j mem
    rw [told.started j _ (Books.stateOf_eq (List.getElem?_eq_getElem inRange))]
    split <;> omega
  · rw [List.count_eq_zero_of_not_mem mem]
    exact Nat.zero_le 1

/-- The books count the jobs in flight. -/
theorem Told.length_inFlight (told : Told start m ends) (kept : Kept deps m)
    (own : StartsOwn m) : (inFlight m.timeline).length = m.books.running := by
  have same : (inFlight m.timeline).Perm (m.books.states.findIdxs (· == .running)) := by
    refine (List.perm_ext_iff_of_nodup (told.nodup_inFlight kept own) List.nodup_findIdxs).mpr
      fun j => ?_
    rw [told.mem_inFlight kept own, ← Books.getElem?_states,
      List.mem_findIdxs_iff_exists_getElem_pos]
    simp [List.getElem?_eq_some_iff]
  rw [same.length_eq, List.length_findIdxs, kept.sound.running]
  rfl

/-- At no moment of the timeline so many are in flight. -/
def Bounded (n : Nat) (m : Machine σ) : Prop :=
  ∀ before, before <+: m.timeline → (inFlight before).length ≤ n

/-- All that the bound of the jobs in flight rests on. -/
structure Counted (deps : List (List Nat)) (start m : Machine σ) : Prop where
  kept : Kept deps m
  told : ∃ ends, Told start m ends
  own : StartsOwn m
  frame : Books.SameFrame start.books m.books
  bounded : ∀ n, start.books.limit = some n → Bounded n.1 m

theorem Counted.length (counted : Counted deps start m) :
    (inFlight m.timeline).length = m.books.running := by
  obtain ⟨ends, told⟩ := counted.told
  exact told.length_inFlight counted.kept counted.own

theorem Counted.quiet (counted : Counted deps start m) (quiet : Quiet m m') :
    Counted deps start m' := by
  obtain ⟨ends, told⟩ := counted.told
  have kept := counted.kept.quiet quiet
  obtain ⟨ends', told'⟩ := told.quiet counted.kept quiet
  have own := counted.own.quiet quiet
  have frame := counted.frame.trans (counted.kept.keeps_quiet quiet).frame
  refine ⟨kept, ⟨ends', told'⟩, own, frame, fun n limit before first => ?_⟩
  rcases quiet.timeline with same | ⟨moment, grown, _⟩
  · exact counted.bounded n limit before (same ▸ first)
  · rw [grown] at first
    rcases List.prefix_concat_iff.mp first with whole | first
    · rw [whole, ← grown, told'.length_inFlight kept own]
      exact kept.sound.limited n (frame.limit.trans limit)
    · exact counted.bounded n limit before first

theorem Counted.polled (counted : Counted deps start m) (comes : Comes start m)
    (resting : m.busy = false) {job : Nat} {rest : List Nat} {body : JobBody σ}
    (polls : m.Polls job rest body) : Counted deps start (m.ranOn job rest body) := by
  obtain ⟨ends, told⟩ := counted.told
  obtain ⟨books, _, timeline, _⟩ := m.ranOn_records job rest body
  refine ⟨counted.kept.polled polls, ⟨ends, told.polled comes resting polls⟩, fun j mem => ?_,
    by rw [books]; exact counted.frame, fun n limit => ?_⟩
  · rw [ranOn_slots, List.length_set]
    exact counted.own j (timeline ▸ mem)
  · rw [Bounded, timeline]
    exact counted.bounded n limit

theorem Comes.counted (comes : Comes start m) (base : Counted deps start start) :
    Counted deps start m :=
  comes.keeps (fun _ _ counted quiet => counted.quiet quiet)
    (fun _ _ _ _ comes resting polls counted => counted.polled comes resting polls) base

theorem Serves.counted (serves : Serves start m) (base : Counted deps start start) :
    Counted deps start m :=
  serves.keeps (fun _ _ counted quiet => counted.quiet quiet)
    (fun _ _ _ _ comes resting polls counted => counted.polled comes resting polls) base

/-! ## The scheduler's turn -/

/-- The scheduler that has started all it can has used all workers, or nobody waits for one. -/
theorem Serves.isShut (serves : Serves start m) (kept : Kept deps start) : m.books.IsShut := by
  obtain ⟨m₀, m₁, comes, _, noticed, dispatched⟩ := serves
  obtain ⟨m₂, books, quietly, next, rfl⟩ := quietly_dispatchAll dispatched
  have kept₂ := kept.reaches (comes.reaches.trans ((quietly_notice noticed).trans quietly).reaches)
  exact (kept₂.sound.answered next).shut rfl

end Machine

/-- A state in which no free worker idles: the jobs that are not at an end run, may start, or wait
for others, and none that may start meets a free worker. -/
structure Snapshot.Drained (s : Snapshot) (running : Nat) : Prop where
  pending : s.pending = running + s.ready + s.waiting
  busy : s.ready = 0 ∨ s.idleWorkers = some 0
  unbounded : s.limit = none → s.ready = 0

theorem Books.Sound.drained {deps : List (List Nat)} {b : Books} (sound : Sound deps b)
    (shut : b.IsShut) : b.snapshot.Drained b.running := by
  have empty (closed : b.halted.isSome = true) : b.snapshot.ready = 0 := by
    rw [snapshot, (sound.balanced.halted closed).1]
    rfl
  refine ⟨sound.snapshot_adds_up, ?_, fun unlimited => ?_⟩
  · rcases shut with closed | full | unrecorded
    · exact .inl (empty closed)
    · right
      cases limit : b.limit with
      | none =>
        rw [isFull, limit] at full
        cases full
      | some n =>
        rw [isFull, limit] at full
        simp only [snapshot, limit, Option.map_some, Option.some.injEq]
        simp at full
        omega
    · exact .inl (by rw [snapshot, unrecorded]; rfl)
  · have unlimited : b.limit = none := by simpa [snapshot, Limit.toNat?] using unlimited
    rcases shut with closed | full | unrecorded
    · exact empty closed
    · rw [isFull, unlimited] at full
      cases full
    · rw [snapshot, unrecorded]
      rfl

end KeyFlow
