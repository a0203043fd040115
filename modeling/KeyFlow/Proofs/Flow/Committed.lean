import KeyFlow.Proofs.Flow.Delivered
import KeyFlow.Proofs.Run.Told

/-!
Who put into the store what is there. A job that has succeeded put its outputs there in the moment
in which it ended; nothing else is ever written, and nothing is overwritten or removed.
-/

namespace KeyFlow

namespace Machine

variable {start m m' : Machine FlowState} {deps : List (List Nat)} {k : Key} {held : Held}
  {good : Nat → List (Key × Held) → Prop} {own : Nat → Key → Prop}

/-- In this moment the job puts something under the key and ends well. -/
def Commits (start m : Machine FlowState) (job : Nat) (k : Key) (held : Held) : Prop :=
  Comes start m ∧ m.busy = false ∧ ∃ rest body, m.Polls job rest body ∧
    (body.advance (m.world job)).1 = .ended (.returned .done) ∧
    m.shared.store.get? k = none ∧
    (body.advance (m.world job)).2.shared.store.get? k = some held

/-- By now the job has succeeded, and has put this under the key. -/
def HasCommitted (start m : Machine FlowState) (job : Nat) (k : Key) (held : Held) : Prop :=
  m.books.stateOf job = some .succeeded ∧ ∃ m₀, Comes m₀ m ∧ start.Commits m₀ job k held

/-- The jobs deliver, each under keys of its own, and as long as a job may do so the slots of its
keys are free. Samples of the scheduler's state leave the store alone. -/
structure Delivering (good : Nat → List (Key × Held) → Prop) (own : Nat → Key → Prop)
    (m : Machine FlowState) : Prop where
  slots : ∀ (i : Nat) slot, m.slots[i]? = some slot → slot.Delivers (good i)
  within : ∀ i pairs, good i pairs → ∀ p ∈ pairs, own i p.1
  apart : ∀ i j k, own i k → own j k → i = j
  free : ∀ (i : Nat) slot, m.slots[i]? = some slot → slot ≠ .spent → ∀ k, own i k →
    m.shared.store.IsFree k
  samples : ∀ sampling, m.sampling = some sampling → ∀ clock snapshot s,
    (sampling.observe clock snapshot s).store = s.store

namespace Delivering

/-- A body that runs leaves the store alone, or it delivers and ends well. -/
theorem poll (delivering : Delivering good own m) {job : Nat} {rest : List Nat}
    {body : JobBody FlowState} (polls : m.Polls job rest body) :
    ((body.advance (m.world job)).2.shared.store = m.shared.store ∧
        (body.advance (m.world job)).1 ≠ .ended (.returned .done)) ∨
      ∃ pairs, good job pairs ∧
        Store.Added pairs m.shared.store (body.advance (m.world job)).2.shared.store ∧
        (body.advance (m.world job)).1 = .ended (.returned .done) := by
  have delivers : body.Delivers (good job) := delivering.slots job _ polls.slot
  refine delivers.advance (m.world job) ?_
  rintro ⟨pairs, is, p, mem, taken⟩
  exact taken (delivering.free job _ polls.slot nofun p.1 (delivering.within job pairs is p mem))

theorem polled (delivering : Delivering good own m) {job : Nat} {rest : List Nat}
    {body : JobBody FlowState} (polls : m.Polls job rest body) :
    Delivering good own (m.ranOn job rest body) := by
  refine ⟨fun i slot found => ?_, delivering.within, delivering.apart,
    fun i slot found unspent k owned => ?_, (m.ranOn_rest job rest body).1 ▸ delivering.samples⟩
  · by_cases same : i = job
    · subst same
      obtain ⟨new, after, moved⟩ := polls.slot_after
      rw [after, Option.some.injEq] at found
      exact found ▸ Slot.Delivers.moved moved (delivering.slots i _ polls.slot)
    · rw [slot_set_ne (m.ranOn_slots job rest body) same] at found
      exact delivering.slots i slot found
  · have free : m.shared.store.IsFree k := by
      by_cases same : i = job
      · exact delivering.free job _ polls.slot nofun k (same ▸ owned)
      · rw [slot_set_ne (m.ranOn_slots job rest body) same] at found
        exact delivering.free i slot found unspent k owned
    rw [(m.ranOn_rest job rest body).2]
    rcases delivering.poll polls with ⟨same, _⟩ | ⟨pairs, is, added, ended⟩
    · rwa [same]
    · -- A job that has delivered is over, and another one writes under other keys.
      refine added.isFree (fun written => unspent ?_) free
      obtain ⟨p, mem, rfl⟩ := List.mem_map.mp written
      obtain rfl := delivering.apart i job p.1 owned (delivering.within job pairs is p mem)
      rw [slot_set_self polls.slot (m.ranOn_slots i rest body), ended, Option.some.injEq] at found
      exact found.symm

theorem quiet (delivering : Delivering good own m) (quiet : Quiet m m') :
    Delivering good own m' ∧ m'.shared.store = m.shared.store := by
  have slots : ∀ (i : Nat) slot, m'.slots[i]? = some slot → slot.Delivers (good i) := by
    intro i slot found
    rcases quiet.slot i with same | ⟨old, new, before, after, moved, _⟩
    · exact delivering.slots i slot (same ▸ found)
    · rw [after, Option.some.injEq] at found
      exact found ▸ Slot.Delivers.moved moved (delivering.slots i old before)
  have free : ∀ (i : Nat) slot, m'.slots[i]? = some slot → slot ≠ .spent → ∀ k, own i k →
      m.shared.store.IsFree k := by
    intro i slot found unspent
    rcases quiet.slot i with same | ⟨old, new, before, _, moved, _⟩
    · exact delivering.free i slot (same ▸ found) unspent
    · exact delivering.free i old before (by rintro rfl; cases moved)
  have rest : ∀ m', (∀ (i : Nat) slot, m'.slots[i]? = some slot → slot.Delivers (good i)) →
      (∀ (i : Nat) slot, m'.slots[i]? = some slot → slot ≠ .spent → ∀ k, own i k →
        m.shared.store.IsFree k) → m'.sampling = m.sampling → m'.shared.store = m.shared.store →
      Delivering good own m' ∧ m'.shared.store = m.shared.store :=
    fun m' slots free sampling same => ⟨⟨slots, delivering.within, delivering.apart, same ▸ free,
      sampling ▸ delivering.samples⟩, same⟩
  cases quiet with
  | sampled =>
    unfold sample at slots free ⊢
    split
    · rename_i sampling on
      have same := delivering.samples sampling on m.clock m.books.snapshot m.shared
      refine ⟨⟨delivering.slots, delivering.within, delivering.apart, ?_, ?_⟩, same⟩
      · exact same ▸ delivering.free
      · rintro _ ⟨⟩
        exact delivering.samples sampling on
    · exact ⟨delivering, rfl⟩
  | woken job =>
    have kept : (m.wake job).sampling = m.sampling ∧ (m.wake job).shared = m.shared := by
      unfold wake
      split <;> exact ⟨rfl, rfl⟩
    exact rest _ slots free kept.1 (congrArg FlowState.store kept.2)
  | _ => exact rest _ slots free rfl rfl

theorem quietly (delivering : Delivering good own m) (h : Quietly m m') :
    Delivering good own m' ∧ m'.shared.store = m.shared.store := by
  refine h.keeps (P := fun m' => Delivering good own m' ∧ m'.shared.store = m.shared.store) ?_
    ⟨delivering, rfl⟩
  rintro m₁ m₂ ⟨delivering, same⟩ quiet
  obtain ⟨delivering', same'⟩ := delivering.quiet quiet
  exact ⟨delivering', same'.trans same⟩

theorem comes (delivering : Delivering good own start) (h : Comes start m) :
    Delivering good own m :=
  h.keeps (fun _ _ delivering quiet => (delivering.quiet quiet).1)
    (fun _ _ _ _ _ _ polls delivering => delivering.polled polls) delivering

/-- What no delivery changes about the store holds all along a run. -/
theorem keeps {P : Store Held → Prop} (delivering : Delivering good own start)
    (delivers : ∀ (m : Machine FlowState) job rest body pairs, Comes start m → m.busy = false →
      m.Polls job rest body → (body.advance (m.world job)).1 = .ended (.returned .done) →
      Store.Added pairs m.shared.store (body.advance (m.world job)).2.shared.store →
      P m.shared.store → P (body.advance (m.world job)).2.shared.store)
    (h : Comes start m) (base : P start.shared.store) : P m.shared.store := by
  have both : Delivering good own m ∧ P m.shared.store := by
    refine h.keeps (P := fun m => Delivering good own m ∧ P m.shared.store) ?_ ?_ ⟨delivering, base⟩
    · rintro m m' ⟨delivering, holds⟩ quiet
      obtain ⟨delivering', same⟩ := delivering.quiet quiet
      exact ⟨delivering', by rw [same]; exact holds⟩
    · rintro m job rest body comes resting polls ⟨delivering, holds⟩
      refine ⟨delivering.polled polls, ?_⟩
      rw [(m.ranOn_rest job rest body).2]
      rcases delivering.poll polls with ⟨same, _⟩ | ⟨pairs, _, added, ended⟩
      · rw [same]
        exact holds
      · exact delivers m job rest body pairs comes resting polls ended added holds
  exact both.2

/-- What is in the store stays there. -/
theorem stays (delivering : Delivering good own start) (h : Comes start m)
    (found : start.shared.store.get? k = some held) : m.shared.store.get? k = some held :=
  delivering.keeps (P := fun store => store.get? k = some held)
    (fun _ _ _ _ _ _ _ _ _ added found => added.keeps found) h found

/-- What is in the store was there at the start, or a job has put it there. -/
theorem origin (delivering : Delivering good own start) (h : Comes start m)
    (found : m.shared.store.get? k = some held) :
    start.shared.store.get? k = some held ∨ ∃ m₀ job, start.Commits m₀ job k held := by
  refine delivering.keeps (P := fun store => store.get? k = some held →
    start.shared.store.get? k = some held ∨ ∃ m₀ job, start.Commits m₀ job k held) ?_ h .inl found
  intro m job rest body pairs comes resting polls ended added origin found
  cases listed : pairs.lookup k with
  | none =>
    rw [added.get, listed] at found
    exact origin found
  | some held' =>
    exact .inr ⟨m, job, comes, resting, rest, body, polls, ended, (added.found listed).1, found⟩

/-- What a body that ran left in the store is there from then on. -/
theorem after_poll (delivering : Delivering good own m) (resting : m.busy = false) {job : Nat}
    {rest : List Nat} {body : JobBody FlowState} (polls : m.Polls job rest body)
    {next : Machine FlowState} (step : m.step = .ok next) (h : Comes next m')
    (found : (body.advance (m.world job)).2.shared.store.get? k = some held) :
    m'.shared.store.get? k = some held := by
  obtain ⟨next', step', quietly⟩ := step_of_polls resting polls
  rw [step] at step'
  cases step'
  obtain ⟨delivering', same⟩ := (delivering.polled polls).quietly quietly
  rw [(m.ranOn_rest job rest body).2] at same
  exact delivering'.stays h (by rw [same]; exact found)

/-- A run that finishes leaves the store as it is. -/
theorem last (delivering : Delivering good own start) (kept : Kept deps start)
    {last : Machine FlowState} (run : start.run = .finished last) :
    ∃ m, Comes start m ∧ last.shared.store = m.shared.store := by
  obtain ⟨m, comes, stops⟩ := run_comes run
  have quietly := ((kept.reaches comes.reaches).step_finished stops).1
  exact ⟨m, comes, ((delivering.comes comes).quietly quietly).2⟩

end Delivering

/-- What a job puts into the store is part of what it delivers. -/
theorem Commits.delivered (delivering : Delivering good own start) {job : Nat}
    (commits : start.Commits m job k held) :
    ∃ pairs, good job pairs ∧ pairs.lookup k = some held := by
  obtain ⟨comes, _, rest, body, polls, ended, empty, found⟩ := commits
  obtain ⟨pairs, is, added, _⟩ :=
    ((delivering.comes comes).poll polls).resolve_left fun no => no.2 ended
  rw [added.get, empty, Option.or_none] at found
  exact ⟨pairs, is, found⟩

theorem HasCommitted.delivered (committed : start.HasCommitted m job k held)
    (delivering : Delivering good own start) :
    ∃ pairs, good job pairs ∧ pairs.lookup k = some held := by
  obtain ⟨_, _, _, commits⟩ := committed
  exact commits.delivered delivering

/-- A job that has succeeded has delivered. -/
theorem Delivering.succeeded (delivering : Delivering good own start) (kept : Kept deps start)
    (told : Told start start []) (comes : Comes start m) {job : Nat}
    (succeeded : m.books.stateOf job = some .succeeded) :
    ∃ pairs, good job pairs ∧ ∀ k held, pairs.lookup k = some held →
      start.HasCommitted m job k held ∧ m.shared.store.get? k = some held := by
  obtain ⟨ends, told'⟩ := comes.told kept told
  have spent := (kept.reaches comes.reaches).spent_of_started told' succeeded rfl rfl
  obtain ⟨c, listed, outcome⟩ := (told'.ended job .succeeded).mp succeeded
  obtain ⟨m₀, rest, body, comes₀, resting, polls, ended⟩ :=
    told'.history _ (List.mem_append_left _ listed)
  have well : c = .returned .done := by
    cases c with
    | returned completion =>
      cases completion with
      | done => rfl
      | skip => cases outcome
    | failed | panicked => cases outcome
  subst well
  obtain ⟨pairs, is, added, _⟩ :=
    ((delivering.comes comes₀).poll polls).resolve_left fun no => no.2 ended
  obtain ⟨next, step, before⟩ := polls.before_spent comes₀ comes spent
  refine ⟨pairs, is, fun k held listed => ?_⟩
  obtain ⟨empty, found⟩ := added.found listed
  exact ⟨⟨succeeded, m₀, .head step before, comes₀, resting, rest, body, polls, ended, empty,
    found⟩, (delivering.comes comes₀).after_poll resting polls step before found⟩

end Machine

end KeyFlow
