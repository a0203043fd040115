import Mathlib.Data.List.Nodup
import KeyFlow.Proofs.Jobs.Dispatch
import KeyFlow.Proofs.Run.Moves

/-!
The invariant of a run: its slots, tokens and conclusions agree with the states in its books. A job
is running in the books just as long as its token lives or its end waits to be recorded.
-/

namespace KeyFlow

/-- The body was started and is not at its end. -/
def Slot.isLive {σ : Type} : Slot σ → Bool
  | .queued _ | .asleep .. | .awaiting _ => true
  | .fresh _ | .spent => false

namespace Machine

variable {σ : Type} {m m' : Machine σ} {deps : List (List Nat)}

/-! ## Tokens -/

theorem dropToken_concat (tokens : List Nat) (last job : Nat) :
    dropToken (tokens ++ [last]) job = tokens.map fun t => if t = job then last else t := by
  simp [dropToken]

theorem mem_dropToken {tokens : List Nat} (nodup : tokens.Nodup) {job : Nat} (mem : job ∈ tokens)
    (t : Nat) : t ∈ dropToken tokens job ↔ t ∈ tokens ∧ t ≠ job := by
  obtain rfl | ⟨front, last, rfl⟩ := List.eq_nil_or_concat' tokens
  · cases mem
  · rw [dropToken_concat, List.mem_map, List.mem_append, List.mem_singleton]
    rw [List.nodup_append_comm, List.singleton_append, List.nodup_cons] at nodup
    rw [List.mem_append, List.mem_singleton] at mem
    constructor
    · rintro ⟨x, inFront, rfl⟩
      split
      · rename_i same
        refine ⟨.inr rfl, fun is => nodup.1 ?_⟩
        rw [is, ← same]
        exact inFront
      · exact ⟨.inl inFront, ‹_›⟩
    · rintro ⟨inFront | rfl, ne⟩
      · exact ⟨t, inFront, if_neg ne⟩
      · exact ⟨job, mem.resolve_right (Ne.symm ne), if_pos rfl⟩

theorem nodup_dropToken {tokens : List Nat} (nodup : tokens.Nodup) (job : Nat) :
    (dropToken tokens job).Nodup := by
  obtain rfl | ⟨front, last, rfl⟩ := List.eq_nil_or_concat' tokens
  · exact List.nodup_nil
  · rw [dropToken_concat]
    rw [List.nodup_append_comm, List.singleton_append, List.nodup_cons] at nodup
    refine List.Nodup.map_on (fun x inX y inY same => ?_) nodup.2
    split at same
    · rename_i hx
      split at same
      · rename_i hy
        rw [hx, hy]
      · exact absurd (same ▸ inY) nodup.1
    · split at same
      · exact absurd (same ▸ inX) nodup.1
      · exact same

/-! ## The invariant -/

/-- The body of the job was started and is not at its end. -/
def isLive (m : Machine σ) (i : Nat) : Bool := m.slots[i]?.any Slot.isLive

/-- The end of the job's body is not recorded yet. -/
def IsEnded (m : Machine σ) (i : Nat) : Prop := i ∈ m.conclusions.map (·.1)

/-- All parts of the run agree with its books, of jobs with these dependencies. -/
structure Kept (deps : List (List Nat)) (m : Machine σ) : Prop where
  sound : Books.Sound deps m.books
  length : m.slots.length = m.books.jobs.length
  fresh : ∀ i, m.books.stateOf i = some .pending → ∃ body, m.slots[i]? = some (.fresh body)
  tokens : ∀ i, i ∈ m.tokens ↔ m.isLive i = true
  nodup : m.tokens.Nodup
  queue : ∀ i body, m.slots[i]? = some (.queued body) → i ∈ m.queue
  spent : ∀ i, m.IsEnded i → m.slots[i]? = some .spent
  once : (m.conclusions.map (·.1)).Nodup
  running : ∀ i, m.books.stateOf i = some .running ↔ m.isLive i = true ∨ m.IsEnded i
  /-- The scheduler does not wait for nothing. -/
  awake : m.busy = false → m.tokens ≠ [] ∨ m.conclusions ≠ []

theorem isLive_of_slot {i : Nat} {slot : Slot σ} (found : m.slots[i]? = some slot) :
    m.isLive i = slot.isLive := by
  rw [isLive, found]
  rfl

theorem isLive_set (m' : Machine σ) {job : Nat} {old new : Slot σ}
    (found : m.slots[job]? = some old) (slots : m'.slots = m.slots.set job new) (i : Nat) :
    m'.isLive i = if i = job then new.isLive else m.isLive i := by
  rw [isLive, slots]
  by_cases same : i = job
  · subst same
    rw [if_pos rfl, List.getElem?_set_self (List.getElem?_eq_some_iff.mp found).1]
    rfl
  · rw [if_neg same, List.getElem?_set_ne (Ne.symm same)]
    rfl

theorem slot_set_ne {job i : Nat} {new : Slot σ} (slots : m'.slots = m.slots.set job new)
    (ne : i ≠ job) : m'.slots[i]? = m.slots[i]? := by
  rw [slots, List.getElem?_set_ne (Ne.symm ne)]

theorem slot_set_self {job : Nat} {old new : Slot σ} (found : m.slots[job]? = some old)
    (slots : m'.slots = m.slots.set job new) : m'.slots[job]? = some new := by
  rw [slots, List.getElem?_set_self (List.getElem?_eq_some_iff.mp found).1]

/-- A machine whose jobs, tokens and books are the same. -/
theorem Kept.congr (kept : Kept deps m) (books : m'.books = m.books) (slots : m'.slots = m.slots)
    (tokens : m'.tokens = m.tokens) (queue : m'.queue = m.queue)
    (conclusions : m'.conclusions = m.conclusions)
    (awake : m'.busy = false → m.tokens ≠ [] ∨ m.conclusions ≠ []) : Kept deps m' where
  sound := by rw [books]; exact kept.sound
  length := by rw [books, slots]; exact kept.length
  fresh := by rw [books, slots]; exact kept.fresh
  tokens := by
    intro i
    rw [tokens, isLive, slots]
    exact kept.tokens i
  nodup := by rw [tokens]; exact kept.nodup
  queue := by rw [slots, queue]; exact kept.queue
  spent := by
    intro i
    rw [IsEnded, conclusions, slots]
    exact kept.spent i
  once := by rw [conclusions]; exact kept.once
  running := by
    intro i
    rw [books, isLive, slots, IsEnded, conclusions]
    exact kept.running i
  awake := by rw [tokens, conclusions]; exact awake

/-- Jobs that were skipped while they waited had no part in the run. -/
theorem Kept.withBooks (kept : Kept deps m) {books : Books} (sound : Books.Sound deps books)
    (length : books.jobs.length = m.books.jobs.length)
    (skips : Books.SkipsBut (fun _ => False) m.books books) : Kept deps { m with books } where
  sound := sound
  length := kept.length.trans length.symm
  fresh := fun i pending => kept.fresh i (skips.before length id pending rfl)
  tokens := kept.tokens
  nodup := kept.nodup
  queue := kept.queue
  spent := kept.spent
  once := kept.once
  running := by
    intro i
    rw [show isLive { m with books } i = m.isLive i from rfl,
      show IsEnded { m with books } i = m.IsEnded i from rfl, ← kept.running i]
    exact skips.running_iff length id
  awake := kept.awake

/-! ## Slots -/

theorem Kept.not_ended (kept : Kept deps m) {job : Nat} {slot : Slot σ}
    (found : m.slots[job]? = some slot) (alive : slot ≠ .spent) : ¬ m.IsEnded job := by
  intro ended
  rw [kept.spent job ended, Option.some.injEq] at found
  exact alive found.symm

theorem Kept.spent_set (kept : Kept deps m) {job : Nat} {old new : Slot σ}
    (found : m.slots[job]? = some old) (alive : old ≠ .spent)
    (slots : m'.slots = m.slots.set job new) {i : Nat} (ended : m.IsEnded i) :
    m'.slots[i]? = some .spent := by
  have ne : i ≠ job := by
    rintro rfl
    exact kept.not_ended found alive ended
  rw [slot_set_ne slots ne]
  exact kept.spent i ended

theorem Kept.fresh_set (kept : Kept deps m) {job : Nat} {old new : Slot σ}
    (found : m.slots[job]? = some old) (live : old.isLive = true)
    (slots : m'.slots = m.slots.set job new) {i : Nat}
    (pending : m.books.stateOf i = some .pending) : ∃ body, m'.slots[i]? = some (.fresh body) := by
  obtain ⟨body, slot⟩ := kept.fresh i pending
  have ne : i ≠ job := by
    rintro rfl
    rw [found, Option.some.injEq] at slot
    rw [slot] at live
    cases live
  exact ⟨body, by rw [slot_set_ne slots ne, slot]⟩

/-- The body of a job that was started goes on, is put to sleep, or is woken. -/
theorem Kept.replaced (kept : Kept deps m) {job : Nat} {old new : Slot σ}
    (found : m.slots[job]? = some old) (was : old.isLive = true) (live : new.isLive = true)
    (slots : m'.slots = m.slots.set job new) (books : m'.books = m.books)
    (tokens : m'.tokens = m.tokens) (conclusions : m'.conclusions = m.conclusions)
    (queue : ∀ i body, m'.slots[i]? = some (.queued body) → i ∈ m'.queue)
    (busy : m'.busy = m.busy) : Kept deps m' := by
  have alive (i : Nat) : m'.isLive i = m.isLive i := by
    rw [isLive_set m' found slots]
    by_cases same : i = job
    · rw [if_pos same, live, same, isLive_of_slot found, was]
    · rw [if_neg same]
  have ended (i : Nat) : m'.IsEnded i ↔ m.IsEnded i := by rw [IsEnded, IsEnded, conclusions]
  constructor
  case sound => rw [books]; exact kept.sound
  case length => rw [slots, books, List.length_set, kept.length]
  case fresh =>
    intro i pending
    rw [books] at pending
    exact kept.fresh_set found was slots pending
  case tokens =>
    intro i
    rw [tokens, alive]
    exact kept.tokens i
  case nodup => rw [tokens]; exact kept.nodup
  case queue => exact queue
  case spent =>
    intro i isEnded
    refine kept.spent_set found ?_ slots ((ended i).mp isEnded)
    rintro rfl
    cases was
  case once => rw [conclusions]; exact kept.once
  case running =>
    intro i
    rw [books, alive, ended]
    exact kept.running i
  case awake => rw [busy, tokens, conclusions]; exact kept.awake

/-! ## Bodies -/

theorem Kept.wake (kept : Kept deps m) (job : Nat) : Kept deps (m.wake job) := by
  unfold Machine.wake
  split
  case h_3 => exact kept
  all_goals
    rename_i next found
    refine kept.replaced found rfl rfl rfl rfl rfl rfl (fun i body slot => ?_) rfl
    by_cases same : i = job
    · rw [same]
      exact List.mem_append_right _ (List.mem_singleton_self job)
    · rw [slot_set_ne (m := m) rfl same] at slot
      exact List.mem_append_left _ (kept.queue i body slot)

theorem Kept.passedOver (kept : Kept deps m) {job : Nat} {rest : List Nat}
    (queue : m.queue = job :: rest) (idle : ∀ body, m.slots[job]? ≠ some (.queued body)) :
    Kept deps { m with queue := rest } where
  sound := kept.sound
  length := kept.length
  fresh := kept.fresh
  tokens := kept.tokens
  nodup := kept.nodup
  queue := by
    intro i body slot
    have mem := kept.queue i body slot
    rw [queue, List.mem_cons] at mem
    exact mem.resolve_left fun same => idle body (same ▸ slot)
  spent := kept.spent
  once := kept.once
  running := kept.running
  awake := kept.awake

/-- A job that ends gives its token back. -/
theorem Kept.concluded (kept : Kept deps m) {job : Nat} {old : Slot σ} {c : Conclusion}
    (found : m.slots[job]? = some old) (was : old.isLive = true)
    (slots : m'.slots = m.slots.set job .spent) (books : m'.books = m.books)
    (tokens : m'.tokens = dropToken m.tokens job)
    (conclusions : m'.conclusions = m.conclusions ++ [(job, c)])
    (queue : ∀ i body, m'.slots[i]? = some (.queued body) → i ∈ m'.queue) : Kept deps m' := by
  have wasLive : m.isLive job = true := (isLive_of_slot found).trans was
  have token : job ∈ m.tokens := (kept.tokens job).mpr wasLive
  have alive : old ≠ .spent := by
    rintro rfl
    cases was
  have live := isLive_set m' found slots
  have ended (i : Nat) : m'.IsEnded i ↔ m.IsEnded i ∨ i = job := by
    rw [IsEnded, conclusions, List.map_append, List.mem_append]
    exact or_congr Iff.rfl List.mem_singleton
  constructor
  case sound => rw [books]; exact kept.sound
  case length => rw [slots, books, List.length_set, kept.length]
  case fresh =>
    intro i pending
    rw [books] at pending
    exact kept.fresh_set found was slots pending
  case tokens =>
    intro i
    rw [tokens, mem_dropToken kept.nodup token, live, kept.tokens]
    by_cases same : i = job
    · simp [same, Slot.isLive]
    · simp [same]
  case nodup => rw [tokens]; exact nodup_dropToken kept.nodup job
  case queue => exact queue
  case spent =>
    intro i isEnded
    rcases (ended i).mp isEnded with before | rfl
    · exact kept.spent_set found alive slots before
    · exact slot_set_self found slots
  case once =>
    rw [conclusions, List.map_append, List.nodup_append_comm]
    exact List.nodup_cons.mpr ⟨kept.not_ended found alive, kept.once⟩
  case running =>
    intro i
    rw [books, ended, live]
    refine (kept.running i).trans ?_
    by_cases same : i = job
    · simp [same, wasLive]
    · simp [same]
  case awake =>
    intro _
    rw [conclusions]
    exact .inr (List.append_ne_nil_of_right_ne_nil _ (List.cons_ne_nil _ _))

/-- A body that ran goes from its queued slot to another one, and perhaps to its end. -/
theorem Kept.left (kept : Kept deps m) {job : Nat} {rest : List Nat} {body : JobBody σ}
    (queue : m.queue = job :: rest) (slot : m.slots[job]? = some (.queued body))
    (pause : Pause σ) (w : World σ) :
    Kept deps (Machine.left { m with queue := rest } job pause w) := by
  have slots : (Machine.left { m with queue := rest } job pause w).slots =
      m.slots.set job (slotAfter m.clock pause) := by
    cases pause <;> rfl
  have queued (i : Nat) (b : JobBody σ)
      (found : (Machine.left { m with queue := rest } job pause w).slots[i]? = some (.queued b)) :
      i ∈ rest := by
    by_cases same : i = job
    · rw [same, slot_set_self slot slots] at found
      cases pause <;> cases found
    · rw [slot_set_ne slots same] at found
      have mem := kept.queue i b found
      rw [queue, List.mem_cons] at mem
      exact mem.resolve_left same
  cases pause with
  | ended c => exact kept.concluded slot rfl slots rfl rfl rfl queued
  | asleep | awaiting => exact kept.replaced slot rfl rfl slots rfl rfl rfl queued rfl

/-! ## The scheduler's turn -/

/-- The next job to start has its body. -/
theorem Kept.not_gone (kept : Kept deps m) {books : Books} {job : Nat}
    (next : m.books.nextDispatch = .ok (some job, books)) :
    ¬ ∀ body, m.slots[job]? ≠ some (.fresh body) := by
  intro gone
  obtain ⟨body, slot⟩ := kept.fresh job ((kept.sound.answered next).begins job rfl).pending
  exact gone body slot

theorem Kept.dispatched (kept : Kept deps m) {books : Books} {job : Nat} {body : JobBody σ}
    (next : m.books.nextDispatch = .ok (some job, books))
    (slot : m.slots[job]? = some (.fresh body)) :
    Kept deps { m with
      books
      slots := m.slots.set job (.queued body)
      queue := m.queue ++ [job]
      tokens := m.tokens ++ [job]
      timeline := m.timeline ++ [.started job] } := by
  have answered := kept.sound.answered next
  have begun := (answered.begins job rfl).running
  have length := answered.frame.length
  have was : m.isLive job = false := isLive_of_slot slot
  have live := isLive_set { m with
    books
    slots := m.slots.set job (.queued body)
    queue := m.queue ++ [job]
    tokens := m.tokens ++ [job]
    timeline := m.timeline ++ [.started job] } slot rfl
  have other {i : Nat} (ne : i ≠ job) : ¬ some job = some i :=
    fun same => ne (Option.some.inj same).symm
  constructor
  case sound => exact answered.sound
  case length =>
    rw [List.length_set, length]
    exact kept.length
  case fresh =>
    intro i pending
    have ne : i ≠ job := by
      rintro rfl
      rw [begun] at pending
      cases pending
    obtain ⟨b, found⟩ := kept.fresh i (answered.skips.before length (other ne) pending rfl)
    exact ⟨b, by rw [slot_set_ne (m := m) rfl ne, found]⟩
  case tokens =>
    intro i
    rw [live, List.mem_append, List.mem_singleton, kept.tokens]
    by_cases same : i = job
    · simp [same, Slot.isLive]
    · simp [same]
  case nodup =>
    rw [List.nodup_append_comm]
    refine List.nodup_cons.mpr ⟨fun mem => ?_, kept.nodup⟩
    rw [(kept.tokens job).mp mem] at was
    cases was
  case queue =>
    intro i b found
    by_cases same : i = job
    · rw [same]
      exact List.mem_append_right _ (List.mem_singleton_self job)
    · rw [slot_set_ne (m := m) rfl same] at found
      exact List.mem_append_left _ (kept.queue i b found)
  case spent => exact fun i => kept.spent_set slot nofun rfl
  case once => exact kept.once
  case running =>
    intro i
    rw [live]
    by_cases same : i = job
    · simp [same, begun, Slot.isLive]
    · rw [if_neg same, answered.skips.running_iff length (other same)]
      exact kept.running i
  case awake =>
    intro _
    exact .inl (List.append_ne_nil_of_right_ne_nil _ (List.cons_ne_nil _ _))

theorem isEnded_head {job : Nat} {c : Conclusion} {rest : List (Nat × Conclusion)}
    (conclusions : m.conclusions = (job, c) :: rest) : m.IsEnded job := by
  rw [IsEnded, conclusions]
  exact List.mem_cons_self ..

/-- The books hold the job as running until its end is recorded. -/
theorem Kept.running_head (kept : Kept deps m) {job : Nat} {c : Conclusion}
    {rest : List (Nat × Conclusion)} (conclusions : m.conclusions = (job, c) :: rest) :
    m.books.stateOf job = some .running :=
  (kept.running job).mpr (.inr (isEnded_head conclusions))

theorem Kept.completes (kept : Kept deps m) {books : Books} {job : Nat} {c : Conclusion}
    {rest : List (Nat × Conclusion)} (conclusions : m.conclusions = (job, c) :: rest)
    (complete : m.books.complete job c.outcome = .ok books) :
    m.books.Completes deps job c.outcome books :=
  kept.sound.completes (kept.running_head conclusions) complete

theorem Kept.recorded (kept : Kept deps m) {books : Books} {job : Nat} {c : Conclusion}
    {rest : List (Nat × Conclusion)} (conclusions : m.conclusions = (job, c) :: rest)
    (complete : m.books.complete job c.outcome = .ok books) :
    Kept deps { m with
      conclusions := rest
      busy := true
      books
      errors := m.errors ++ c.error?.toList
      timeline := m.timeline ++ [.recorded job c.outcome] } := by
  have isEnded (i : Nat) : m.IsEnded i ↔ i = job ∨ i ∈ rest.map (·.1) := by
    rw [IsEnded, conclusions, List.map_cons, List.mem_cons]
  have once := kept.once
  rw [conclusions, List.map_cons, List.nodup_cons] at once
  have completes := kept.completes conclusions complete
  have length := completes.frame.length
  have notLive := isLive_of_slot (kept.spent job (isEnded_head conclusions))
  have terminal := c.outcome.state_isTerminal
  constructor
  case sound => exact completes.sound
  case length => exact kept.length.trans length.symm
  case fresh =>
    intro i pending
    by_cases same : i = job
    · rw [same, completes.ended, Option.some.injEq] at pending
      rw [pending] at terminal
      cases terminal
    · exact kept.fresh i (completes.skips.before length same pending rfl)
  case tokens => exact kept.tokens
  case nodup => exact kept.nodup
  case queue => exact kept.queue
  case spent =>
    intro i later
    exact kept.spent i ((isEnded i).mpr (.inr later))
  case once => exact once.2
  case running =>
    intro i
    show _ ↔ m.isLive i = true ∨ i ∈ rest.map (·.1)
    by_cases same : i = job
    · subst same
      rw [completes.ended, notLive]
      constructor
      · intro still
        rw [Option.some.inj still] at terminal
        cases terminal
      · rintro (no | mem)
        · cases no
        · exact absurd mem once.1
    · rw [completes.skips.running_iff length same, kept.running, isEnded]
      simp only [same, false_or]
  case awake =>
    intro resting
    cases resting

theorem Kept.noticed (kept : Kept deps m) {books : Books}
    (halted : m.books.halt .cancelled = .ok books) : Kept deps { m with seen := true, books } := by
  have halts := kept.sound.halts halted
  exact (kept.withBooks halts.sound halts.frame.length halts.skips).congr rfl rfl rfl rfl rfl
    kept.awake

theorem Kept.waited (kept : Kept deps m) {books : Books}
    (next : m.books.nextDispatch = .ok (none, books)) : Kept deps { m with books } := by
  have answered := kept.sound.answered next
  exact kept.withBooks answered.sound answered.frame.length answered.skips_none

/-! ## All moves -/

theorem Kept.quiet (kept : Kept deps m) (quiet : Quiet m m') : Kept deps m' := by
  cases quiet with
  | turned => exact kept.congr rfl rfl rfl rfl rfl nofun
  | rested alive =>
    refine kept.congr rfl rfl rfl rfl rfl fun _ => .inl fun noTokens => ?_
    rw [noTokens] at alive
    cases alive
  | passed | arrived => exact kept.congr rfl rfl rfl rfl rfl kept.awake
  | sampled =>
    unfold sample
    split
    · exact kept.congr rfl rfl rfl rfl rfl kept.awake
    · exact kept
  | woken job => exact kept.wake job
  | passedOver queue idle => exact kept.passedOver queue idle
  | noticed _ halted => exact kept.noticed halted
  | waited next => exact kept.waited next
  | dispatched next slot => exact kept.dispatched next slot
  | forgone next gone => exact (kept.not_gone next gone).elim
  | recorded conclusions complete => exact kept.recorded conclusions complete

theorem Kept.polled (kept : Kept deps m) {job : Nat} {rest : List Nat} {body : JobBody σ}
    (polls : m.Polls job rest body) : Kept deps (m.ranOn job rest body) :=
  kept.left polls.queue polls.slot _ _

theorem Kept.move (kept : Kept deps m) (move : Move m m') : Kept deps m' := by
  cases move with
  | quiet quiet => exact kept.quiet quiet
  | polled polls => exact kept.polled polls

theorem Kept.reaches (kept : Kept deps m) (h : Reaches m m') : Kept deps m' :=
  h.keeps (fun _ _ kept move => kept.move move) kept

/-- The scheduler's view of a cancellation never meets a fault. -/
theorem Kept.notice_ok (kept : Kept deps m) : ∃ m', m.notice = .ok m' ∧ Kept deps m' := by
  unfold notice
  split
  · obtain ⟨books, halted, _⟩ := Books.halt_ok kept.sound .cancelled
    exact ⟨_, by rw [halted], kept.noticed halted⟩
  · exact ⟨m, rfl, kept⟩

/-- A job that starts has its body. -/
theorem Kept.dispatchAll_ok (kept : Kept deps m) : ∃ m', m.dispatchAll = .ok m' := by
  fun_induction dispatchAll m with
  | case1 m f failed =>
    obtain ⟨_, _, eq, _⟩ := Books.nextDispatch_ok kept.sound
    rw [failed] at eq
    cases eq
  | case2 m books => exact ⟨_, rfl⟩
  | case3 m job books next body slot ih => exact ih (kept.dispatched next slot)
  | case4 m job books next _ _ gone | case5 m job books next _ _ gone =>
    exact (kept.not_gone next gone).elim

/-- In books whose jobs all ended or wait, nothing runs. -/
theorem Kept.idle (kept : Kept deps m) (tokens : m.tokens = []) (conclusions : m.conclusions = []) :
    m.books.running = 0 := by
  rw [kept.sound.running, List.count_eq_zero]
  intro mem
  obtain ⟨i, state⟩ := List.mem_iff_getElem?.mp mem
  rw [Books.getElem?_states, kept.running, ← kept.tokens, tokens, IsEnded, conclusions] at state
  rcases state with no | no <;> cases no

end Machine

end KeyFlow
