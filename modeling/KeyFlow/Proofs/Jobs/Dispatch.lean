import KeyFlow.Proofs.Jobs.Sound

/-!
Sound books stay sound, and no operation on them meets a fault. For each operation this says what
it answers and how it moves the states of the jobs.
-/

namespace KeyFlow

theorem Outcome.state_isTerminal (o : Outcome) : o.state.isTerminal = true := by
  cases o <;> rfl

theorem Outcome.state_inj {o o' : Outcome} (h : o.state = o'.state) : o = o' := by
  cases o <;> cases o' <;> first | rfl | cases h

namespace Books

variable {deps : List (List Nat)} {b b' : Books}

/-- The part of the books that no operation changes. -/
structure SameFrame (b b' : Books) : Prop where
  limit : b'.limit = b.limit
  continueOnError : b'.continueOnError = b.continueOnError
  length : b'.jobs.length = b.jobs.length

theorem SameFrame.trans {b₁ : Books} (h : SameFrame b b₁) (h' : SameFrame b₁ b') :
    SameFrame b b' :=
  ⟨h'.limit.trans h.limit, h'.continueOnError.trans h.continueOnError,
    h'.length.trans h.length⟩

/-- Apart from the jobs in `out`, some pending jobs were skipped and all others are as before. No
job declined unless a halt said so for all. -/
def SkipsBut (out : Nat → Prop) (b b' : Books) : Prop :=
  ∀ (c : Nat) (s : JobState), ¬ out c → b.stateOf c = some s →
    b'.stateOf c = some s ∨ (s = .pending ∧ ∃ cause, b'.stateOf c = some (.skipped cause) ∧
      (cause = .declined → b'.halted = some .declined))

theorem SkipsBut.refl (out : Nat → Prop) (b : Books) : SkipsBut out b b :=
  fun _ _ _ state => .inl state

/-- A job whose state is neither pending nor skipped afterwards was as it is now. -/
theorem SkipsBut.before {out : Nat → Prop} (skips : SkipsBut out b b')
    (length : b'.jobs.length = b.jobs.length) {c : Nat} {s : JobState} (h : ¬ out c)
    (state : b'.stateOf c = some s) (ran : s.isSkipped = false) : b.stateOf c = some s := by
  have before := stateOf_eq (List.getElem?_eq_getElem (length ▸ lt_of_stateOf state))
  rcases skips c _ h before with same | ⟨_, cause, skipped, _⟩
  · exact before.trans (same.symm.trans state)
  · rw [state, Option.some.injEq] at skipped
    rw [skipped] at ran
    cases ran

theorem SkipsBut.ended {out : Nat → Prop} (skips : SkipsBut out b b') {c : Nat} (h : ¬ out c)
    {state : JobState} (found : b.stateOf c = some state) (terminal : state.isTerminal = true) :
    b'.stateOf c = some state := by
  refine (skips c state h found).resolve_right ?_
  rintro ⟨rfl, _⟩
  cases terminal

/-- A job that was not skipped just now is as it was. -/
theorem SkipsBut.cases {out : Nat → Prop} (skips : SkipsBut out b b')
    (length : b'.jobs.length = b.jobs.length) (notDeclined : b'.halted ≠ some .declined) {i : Nat}
    (h : ¬ out i) {state : JobState} (found : b'.stateOf i = some state) :
    b.stateOf i = some state ∨
      (b.stateOf i = some .pending ∧ ∃ cause, state = .skipped cause ∧ cause ≠ .declined) := by
  have before := stateOf_eq (List.getElem?_eq_getElem (length ▸ lt_of_stateOf found))
  rcases skips i _ h before with same | ⟨pending, cause, skipped, declined⟩
  · rw [found] at same
    exact .inl (before.trans same.symm)
  · rw [found, Option.some.injEq] at skipped
    exact .inr ⟨before.trans (congrArg some pending), cause, skipped,
      fun is => notDeclined (declined is)⟩

theorem SkipsBut.running_iff {out : Nat → Prop} (skips : SkipsBut out b b')
    (length : b'.jobs.length = b.jobs.length) {c : Nat} (h : ¬ out c) :
    b'.stateOf c = some .running ↔ b.stateOf c = some .running := by
  refine ⟨fun running => skips.before length h running rfl, fun running => ?_⟩
  rcases skips c _ h running with same | ⟨no, _⟩
  · exact same
  · cases no

theorem Tied.congr (tied : Tied deps b) (jobs : b'.jobs = b.jobs) (halted : b'.halted = b.halted) :
    Tied deps b' := by
  obtain ⟨h₁, h₂, h₃, h₄, h₅, h₆, h₇, h₈, h₉, h₁₀, h₁₁⟩ := tied
  have state (c : Nat) : b'.stateOf c = b.stateOf c := by rw [stateOf, stateOf, jobs]
  have blocks (c : Nat) : b'.blocksOf c = b.blocksOf c := blocksOf_congr (state c)
  constructor
  all_goals
    try simp only [state, blocks]
    try rw [jobs]
    try rw [halted]
    assumption

/-- Counting states when one of them changes. -/
theorem countP_states_set {i : Nat} {old : JobState} (p : JobState → Bool) (new : JobState)
    (h : b.stateOf i = some old) :
    (b.states.set i new).countP p + (if p old then 1 else 0) =
      b.states.countP p + if p new then 1 else 0 := by
  rw [← getElem?_states] at h
  obtain ⟨inRange, eq⟩ := List.getElem?_eq_some_iff.mp h
  rw [List.countP_set inRange, eq]
  have := List.countP_pos_iff (p := p) (l := b.states)
  by_cases yes : p old = true
  · have : 0 < b.states.countP p := this.mpr ⟨old, eq ▸ List.getElem_mem inRange, yes⟩
    simp only [yes, if_true]
    omega
  · simp [yes]

/-- The count of the live jobs when one of them ends. -/
theorem live_count_ended (new : JobState) {i : Nat} {old : JobState} (h : b.stateOf i = some old)
    (live : old.isTerminal = false) (ends : new.isTerminal = true) :
    (b.states.set i new).countP (!·.isTerminal) + 1 = b.states.countP (!·.isTerminal) := by
  have count := countP_states_set (!·.isTerminal) new h
  rw [live, ends] at count
  exact count

theorem states_started (i : Nat) (e : Entry) (rest : List Nat) :
    (b.started i e rest).states = b.states.set i .running := by
  rw [states, started, List.map_set, states]

theorem Sound.pos_unfinished (sound : Sound deps b) {i : Nat} {e : Entry}
    (found : b.jobs[i]? = some e) (live : e.state.isTerminal = false) : 0 < b.unfinished := by
  rw [sound.unfinished]
  refine List.countP_pos_iff.mpr ⟨e.state, ?_, by simp [live]⟩
  exact List.mem_map_of_mem (List.mem_of_getElem? found)

/-! ## The next job to start -/

/-- What taking a job from the queue comes to. -/
structure Taken (deps : List (List Nat)) (b : Books) (r : Option Nat) (b' : Books) : Prop where
  sound : Sound deps b'
  frame : SameFrame b b'
  halted : b'.halted = b.halted
  other : SkipsBut (r = some ·) b b'
  empty : r = none → b'.ready = [] ∧ b'.running = b.running
  job : ∀ j, r = some j → b.stateOf j = some .pending ∧ b'.stateOf j = some .running ∧
    b'.running = b.running + 1 ∧ ∀ d ∈ deps[j]?.getD [], b.stateOf d = some .succeeded

theorem Taken.of_empty (sound : Sound deps b) (queue : b.ready = []) : Taken deps b none b where
  sound := sound
  frame := ⟨rfl, rfl, rfl⟩
  halted := rfl
  other := .refl _ b
  empty := fun _ => ⟨queue, rfl⟩
  job := nofun

/-- The job at the head of the queue starts. -/
theorem Taken.of_free (sound : Sound deps b) {i : Nat} {rest : List Nat} {e : Entry}
    (queue : b.ready = i :: rest) (found : b.jobs[i]? = some e) (free : e.blocked = none)
    (room : ∀ n, b.limit = some n → b.running < n.1) :
    Taken deps b (some i) (b.started i e rest) := by
  obtain ⟨x, foundx, pending, settled⟩ :=
    (sound.lined.mem_iff i).mp (queue ▸ List.mem_cons_self ..)
  rw [found, Option.some.injEq] at foundx
  subst foundx
  have state := stateOf_started (b := b) rest found
  have before := stateOf_eq found
  rw [pending] at before
  have nodup := sound.lined.1
  rw [queue, List.nodup_cons] at nodup
  refine ⟨⟨sound.tied.start rest found pending settled free, ⟨nodup.2, fun c => ?_⟩, ?_, ?_, ?_⟩,
    ⟨rfl, rfl, List.length_set ..⟩, rfl, ?_, nofun, ?_⟩
  · have mem := sound.lined.mem_iff c
    rw [queue, List.mem_cons] at mem
    simp only [not_false_eq_true, true_and]
    constructor
    · intro later
      have ne : c ≠ i := fun same => nodup.1 (same ▸ later)
      obtain ⟨x, foundx, waits⟩ := mem.mp (.inr later)
      exact ⟨x, by simpa [started, Ne.symm ne] using foundx, waits⟩
    · rintro ⟨x, foundx, waits⟩
      rcases entry_set_cases foundx with ⟨rfl, rfl⟩ | ⟨ne, foundx⟩
      · cases waits.1
      · exact (mem.mpr ⟨x, foundx, waits⟩).resolve_left ne
  · have count := countP_states_set (· == .running) .running before
    rw [states_started]
    have := sound.running
    simp only [List.count, started] at this ⊢
    simp at count
    omega
  · have count := countP_states_set (!·.isTerminal) .running before
    rw [states_started]
    exact sound.unfinished.trans (Nat.add_right_cancel count).symm
  · intro n limit
    exact room n limit
  · intro c s ne stateC
    rw [state, if_neg fun same => ne (by rw [same])]
    exact .inl stateC
  · rintro j ⟨⟩
    refine ⟨before, by rw [state, if_pos rfl], rfl, ?_⟩
    exact sound.tied.succeeded_of_ready found pending settled free

/-- The job at the head of the queue is skipped. -/
theorem skip_ok (sound : Sound deps b) {i : Nat} {rest : List Nat} {e : Entry} {cause : SkipCause}
    (queue : b.ready = i :: rest) (found : b.jobs[i]? = some e) (block : e.blocked = some cause) :
    ∃ b₁, finish { b with ready := rest } i (.skipped cause) = .ok b₁ ∧ Sound deps b₁ ∧
      Ended i e (.skipped cause) { b with ready := rest } b₁ ∧ SameFrame b b₁ ∧
      b₁.running = b.running ∧ b.stateOf i = some .pending := by
  obtain ⟨x, foundx, pending, settled⟩ :=
    (sound.lined.mem_iff i).mp (queue ▸ List.mem_cons_self ..)
  rw [found, Option.some.injEq] at foundx
  subst foundx
  have before := stateOf_eq found
  rw [pending] at before
  have live : e.state.isTerminal = false := by rw [pending]; rfl
  have nodup := sound.lined.1
  rw [queue, List.nodup_cons] at nodup
  have lined : Lined (· = i) { b with ready := rest } := by
    refine ⟨nodup.2, fun c => ?_⟩
    have mem := sound.lined.mem_iff c
    rw [queue, List.mem_cons] at mem
    rw [← mem]
    constructor
    · intro later
      exact ⟨fun same => nodup.1 (same ▸ later), .inr later⟩
    · rintro ⟨ne, here | later⟩
      · exact absurd here ne
      · exact later
  have tied : Tied deps { b with ready := rest } := sound.tied.congr rfl rfl
  obtain ⟨b₁, done, ended, lined₁, closed⟩ := finish_ok (s := .skipped cause) tied found live rfl
    lined (sound.pos_unfinished found live)
  have states : b₁.states = b.states.set i (.skipped cause) := ended.states
  have running : b₁.running = b.running := by rw [closed.frame]
  have tied₁ := tied.ended found live rfl (.inr ⟨cause, block, rfl⟩) ended
  refine ⟨b₁, done, ⟨tied₁, lined₁, ?_, ?_, ?_⟩, ended,
    ⟨by rw [closed.frame], by rw [closed.frame], ended.length⟩, running, before⟩
  · have count := countP_states_set (· == .running) (.skipped cause) before
    rw [running, states]
    have := sound.running
    simp only [List.count] at this ⊢
    simp at count
    omega
  · have count := live_count_ended (.skipped cause) before rfl rfl
    have less : b₁.unfinished + 1 = b.unfinished := closed.unfinished
    rw [states]
    rw [sound.unfinished] at less
    omega
  · rw [closed.frame]
    exact sound.limited

theorem takeReady_ok (sound : Sound deps b) (room : ∀ n, b.limit = some n → b.running < n.1) :
    ∃ r b', b.takeReady = .ok (r, b') ∧ Taken deps b r b' := by
  fun_induction takeReady b with
  | case1 b queue => exact ⟨none, b, rfl, .of_empty sound queue⟩
  | case2 b i rest queue missing =>
    obtain ⟨x, found, _⟩ := (sound.lined.mem_iff i).mp (queue ▸ List.mem_cons_self ..)
    rw [missing] at found
    cases found
  | case3 b i rest queue e found free => exact ⟨_, _, rfl, .of_free sound queue found free room⟩
  | case4 b i rest queue e found cause block f failed =>
    obtain ⟨b₁, done, _⟩ := skip_ok sound queue found block
    rw [failed] at done
    cases done
  | case5 b i rest queue e found cause block b₁ done ih =>
    obtain ⟨b₂, done', sound₁, ended, frame, running, before⟩ := skip_ok sound queue found block
    rw [done, Except.ok.injEq] at done'
    subst done'
    obtain ⟨r, b', taken, h⟩ := ih sound₁ (by rw [frame.limit, running]; exact room)
    have state (c : Nat) : b₁.stateOf c = if c = i then some (.skipped cause) else b.stateOf c := by
      by_cases same : c = i
      · rw [if_pos same, same, ended.stateOf_self]
      · rw [if_neg same]
        exact ended.stateOf_ne same
    refine ⟨r, b', taken, h.sound, frame.trans h.frame, h.halted.trans ended.halted, ?_, ?_, ?_⟩
    · intro c s out stateC
      by_cases same : c = i
      · subst same
        rw [before, Option.some.injEq] at stateC
        subst stateC
        rcases h.other c (.skipped cause) out (by rw [state, if_pos rfl]) with same | ⟨no, _⟩
        · refine .inr ⟨rfl, cause, same, ?_⟩
          rintro rfl
          exact absurd block (sound.tied.blocked_ne_declined found)
        · cases no
      · exact h.other c s out (by rw [state, if_neg same, stateC])
    · intro settled
      exact ⟨(h.empty settled).1, (h.empty settled).2.trans running⟩
    · intro j next
      obtain ⟨pending, begun, counted, succeeded⟩ := h.job j next
      have old {c : Nat} {s : JobState} (h : b₁.stateOf c = some s) (ne : s ≠ .skipped cause) :
          b.stateOf c = some s := by
        rw [state] at h
        split at h
        · rw [Option.some.injEq] at h
          exact absurd h.symm ne
        · exact h
      refine ⟨old pending ?_, begun, by rw [counted, running], fun d named => ?_⟩
      · rintro ⟨⟩
      · refine old (succeeded d named) ?_
        rintro ⟨⟩

/-- Nothing can start: the books are halted, all workers are taken, or nobody is in the queue. -/
def IsShut (b : Books) : Prop := b.halted.isSome = true ∨ b.isFull = true ∨ b.ready = []

/-- The job begins in open books, behind jobs that succeeded. -/
structure Begins (deps : List (List Nat)) (b : Books) (j : Nat) (b' : Books) : Prop where
  unhalted : b.halted = none
  pending : b.stateOf j = some .pending
  running : b'.stateOf j = some .running
  counted : b'.running = b.running + 1
  succeeded : ∀ d ∈ deps[j]?.getD [], b.stateOf d = some .succeeded

/-- Books that were asked for the next job gave this answer. -/
structure Answered (deps : List (List Nat)) (b : Books) (r : Option Nat) (b' : Books) : Prop where
  sound : Sound deps b'
  frame : SameFrame b b'
  halted : b'.halted = b.halted
  skips : SkipsBut (r = some ·) b b'
  shut : r = none → b'.IsShut
  begins : ∀ j, r = some j → Begins deps b j b'

/-- The books always have an answer. -/
theorem nextDispatch_ok (sound : Sound deps b) :
    ∃ r b', b.nextDispatch = .ok (r, b') ∧ Answered deps b r b' := by
  by_cases shut : (b.isHalted || b.isFull) = true
  · refine ⟨none, b, by rw [nextDispatch, if_pos shut], sound, ⟨rfl, rfl, rfl⟩, rfl, .refl _ b,
      fun _ => ?_, nofun⟩
    rw [Bool.or_eq_true] at shut
    exact shut.imp_right .inl
  · have unhalted : b.halted = none := by
      rw [Bool.or_eq_true, not_or] at shut
      simpa [isHalted] using shut.1
    have room : ∀ n, b.limit = some n → b.running < n.1 := by
      intro n limit
      by_contra full
      exact shut (by simp [isFull, limit, Nat.le_of_not_lt full])
    obtain ⟨r, b', taken, h⟩ := takeReady_ok sound room
    refine ⟨r, b', by rw [nextDispatch, if_neg shut, taken], h.sound, h.frame, h.halted, h.other,
      fun settled => .inr (.inr (h.empty settled).1), fun j next => ?_⟩
    obtain ⟨pending, running, counted, succeeded⟩ := h.job j next
    exact ⟨unhalted, pending, running, counted, succeeded⟩

/-- Without a job that begins, some jobs were skipped at most. -/
theorem Answered.skips_none (answered : Answered deps b none b') :
    SkipsBut (fun _ => False) b b' :=
  fun i s _ => answered.skips i s nofun

theorem Sound.answered (sound : Sound deps b) {r : Option Nat}
    (next : b.nextDispatch = .ok (r, b')) : Answered deps b r b' := by
  obtain ⟨r', b₁, eq, answered⟩ := nextDispatch_ok sound
  rw [next] at eq
  cases eq
  exact answered

/-! ## A halt -/

theorem states_haltedBy (b : Books) (cause : SkipCause) (n : Nat) :
    (b.haltedBy cause n).states = b.jobs.map fun e => (e.atHalt cause).state := by
  rw [states, haltedBy, List.map_map]
  rfl

theorem count_running_atHalt (jobs : List Entry) (cause : SkipCause) :
    (jobs.map fun e => (e.atHalt cause).state).count .running =
      (jobs.map (·.state)).count .running := by
  induction jobs with
  | nil => rfl
  | cons e es ih =>
    rw [List.map_cons, List.map_cons, List.count_cons, List.count_cons, ih]
    by_cases pending : e.state = .pending
    · rw [Entry.atHalt_pending cause e pending, pending]
      rfl
    · rw [Entry.atHalt_of_ne cause e pending]

theorem countP_live_atHalt (jobs : List Entry) (cause : SkipCause) :
    (jobs.map fun e => (e.atHalt cause).state).countP (!·.isTerminal) +
      jobs.countP (·.state == .pending) = (jobs.map (·.state)).countP (!·.isTerminal) := by
  induction jobs with
  | nil => rfl
  | cons e es ih =>
    simp only [List.map_cons, List.countP_cons]
    by_cases pending : e.state = .pending
    · rw [Entry.atHalt_pending cause e pending, pending]
      show _ + 0 + (_ + 1) = _ + 1
      omega
    · rw [Entry.atHalt_of_ne cause e pending]
      simp only [beq_iff_eq, pending, if_false]
      omega

/-- The books are halted now, for this cause if they were open. -/
structure Halts (deps : List (List Nat)) (b : Books) (cause : SkipCause) (b' : Books) : Prop where
  sound : Sound deps b'
  frame : SameFrame b b'
  halted : b'.halted = b.halted.or (some cause)
  running : b'.running = b.running
  skips : SkipsBut (fun _ => False) b b'

theorem Halts.isSome {cause : SkipCause} (halts : Halts deps b cause b') :
    b'.halted.isSome = true := by
  rw [halts.halted, Option.isSome_or]
  exact Bool.or_true _

/-- A halt skips all pending jobs, unless the books are halted already. -/
theorem halt_ok (sound : Sound deps b) (cause : SkipCause) :
    ∃ b', b.halt cause = .ok b' ∧ Halts deps b cause b' := by
  cases halted : b.halted with
  | some before =>
    exact ⟨b, by rw [halt, halted], sound, ⟨rfl, rfl, rfl⟩, by rw [halted]; rfl, rfl, .refl _ b⟩
  | none =>
    have split := countP_live_atHalt b.jobs cause
    have unfinished := sound.unfinished
    rw [states] at unfinished
    let n := b.unfinished - b.jobs.countP (·.state == .pending)
    refine ⟨b.haltedBy cause n, ?_, ⟨sound.tied.halt cause n halted, ?_, ?_, ?_, sound.limited⟩,
      ⟨rfl, rfl, List.length_map ..⟩, by rw [halted]; rfl, rfl, ?_⟩
    · rw [halt, halted]
      simp only
      rw [if_neg (by omega)]
      rfl
    · refine ⟨List.nodup_nil, fun c => ?_⟩
      simp only [haltedBy, List.not_mem_nil, false_iff, not_and]
      rintro - ⟨x', found, pending, _⟩
      obtain ⟨x, _, rfl⟩ := (entry_haltedBy cause n).mp found
      exact Entry.atHalt_ne_pending cause x pending
    · rw [states_haltedBy, count_running_atHalt]
      exact sound.running
    · rw [states_haltedBy]
      show n = _
      omega
    · intro c s _ state
      by_cases pending : s = .pending
      · obtain ⟨x, found, rfl⟩ := entry_of_stateOf state
        refine .inr ⟨pending, x.blocked.getD cause, ?_, fun declined => ?_⟩
        · rw [stateOf_eq ((entry_haltedBy cause n).mpr ⟨x, found, rfl⟩),
            Entry.atHalt_pending cause x pending]
        · cases block : x.blocked with
          | none =>
            rw [block] at declined
            exact congrArg some declined
          | some before =>
            rw [block] at declined
            exact absurd (block.trans (congrArg some declined))
              (sound.tied.blocked_ne_declined found)
      · exact .inl (stateOf_haltedBy cause n state pending)

theorem Sound.halts (sound : Sound deps b) {cause : SkipCause} (halted : b.halt cause = .ok b') :
    Halts deps b cause b' := by
  obtain ⟨b₁, eq, halts⟩ := halt_ok sound cause
  rw [halted] at eq
  cases eq
  exact halts

/-! ## A job's outcome -/

/-- The outcome of a job that does not run changes nothing. -/
theorem complete_of_not_running {i : Nat} (h : b.stateOf i ≠ some .running) (o : Outcome) :
    b.complete i o = .ok b := by
  unfold complete
  split
  · rename_i running
    exact absurd running h
  · rfl

/-- The queue holds no running job. -/
theorem Sound.lined_of_running (sound : Sound deps b) {i : Nat} {e : Entry}
    (found : b.jobs[i]? = some e) (running : e.state = .running) : Lined (· = i) b := by
  refine ⟨sound.lined.1, fun c => ?_⟩
  rw [sound.lined.mem_iff c]
  constructor
  · rintro ⟨x, foundx, pending, settled⟩
    refine ⟨?_, x, foundx, pending, settled⟩
    rintro rfl
    rw [found, Option.some.injEq] at foundx
    rw [← foundx, running] at pending
    cases pending
  · rintro ⟨-, h⟩
    exact h

/-- A running job leaves its worker and ends with its outcome. -/
theorem finish_running_ok (sound : Sound deps b) {i : Nat} (running : b.stateOf i = some .running)
    (o : Outcome) :
    ∃ n e b', b.running = n + 1 ∧ finish { b with running := n } i o.state = .ok b' ∧
      Sound deps b' ∧ b.jobs[i]? = some e ∧ MayEnd e o.state ∧
      Ended i e o.state { b with running := n } b' ∧ SameFrame b b' ∧ b'.running = n := by
  obtain ⟨e, found, state⟩ := entry_of_stateOf running
  have live : e.state.isTerminal = false := by rw [state]; rfl
  have terminal : o.state.isTerminal = true := o.state_isTerminal
  obtain ⟨n, count⟩ : ∃ n, b.running = n + 1 := by
    have pos : 0 < b.states.count .running := by
      rw [List.count_pos_iff]
      exact List.mem_of_getElem? ((getElem?_states b i).trans running)
    rw [← sound.running] at pos
    exact ⟨b.running - 1, by omega⟩
  have tied : Tied deps { b with running := n } := sound.tied.congr rfl rfl
  obtain ⟨b₁, done, ended, lined₁, closed⟩ := finish_ok (s := o.state) tied found live terminal
    (sound.lined_of_running found state) (sound.pos_unfinished found live)
  have may : MayEnd e o.state := .inl ⟨state, fun cause skip => by
    cases o <;> cases skip
    rfl⟩
  have states : b₁.states = b.states.set i o.state := ended.states
  have less : b₁.running = n := by rw [closed.frame]
  have frame : SameFrame b b₁ := ⟨by rw [closed.frame], by rw [closed.frame], ended.length⟩
  refine ⟨n, e, b₁, count, done, ?_, found, may, ended, frame, less⟩
  refine ⟨tied.ended found live terminal may ended, lined₁, ?_, ?_, ?_⟩
  · have counted := countP_states_set (· == .running) o.state running
    have := sound.running
    rw [states]
    simp only [List.count] at this ⊢
    cases o <;> simp [Outcome.state] at counted ⊢ <;> omega
  · have counted := live_count_ended o.state running rfl terminal
    have fewer : b₁.unfinished + 1 = b.unfinished := closed.unfinished
    rw [states]
    rw [sound.unfinished] at fewer
    omega
  · intro m limit
    rw [frame.limit] at limit
    have := sound.limited m limit
    omega

/-- Books that go on after the outcome hold the ended job and nothing else that is new. -/
theorem complete_ended (sound : Sound deps b) {i : Nat} (running : b.stateOf i = some .running)
    (o : Outcome) (goesOn : ¬ (o = .failed ∧ b.continueOnError = false)) :
    ∃ n e b', b.running = n + 1 ∧ b.complete i o = .ok b' ∧ Sound deps b' ∧
      b.jobs[i]? = some e ∧ MayEnd e o.state ∧ Ended i e o.state { b with running := n } b' ∧
      SameFrame b b' ∧ b'.running = n := by
  obtain ⟨n, e, b₁, count, done, sound₁, found, may, ended, frame, less⟩ :=
    finish_running_ok sound running o
  refine ⟨n, e, b₁, count, ?_, sound₁, found, may, ended, frame, less⟩
  rw [complete, running]
  simp only [count, done, frame.continueOnError]
  rw [if_neg (by simpa using goesOn)]

/-- The job has ended, and its failure has halted books that do not go on. -/
structure Completes (deps : List (List Nat)) (b : Books) (i : Nat) (o : Outcome) (b' : Books) :
    Prop where
  sound : Sound deps b'
  frame : SameFrame b b'
  ended : b'.stateOf i = some o.state
  skips : SkipsBut (· = i) b b'
  counted : b'.running + 1 = b.running
  halted : b'.halted =
    if o = .failed ∧ b.continueOnError = false then b.halted.or (some .flowFailed) else b.halted

/-- A running job ends with its outcome. -/
theorem complete_ok (sound : Sound deps b) {i : Nat} (running : b.stateOf i = some .running)
    (o : Outcome) : ∃ b', b.complete i o = .ok b' ∧ Completes deps b i o b' := by
  by_cases stops : o = .failed ∧ b.continueOnError = false
  · obtain ⟨n, e, b₁, count, done, sound₁, _, _, ended, frame, less⟩ :=
      finish_running_ok sound running o
    have halted : b₁.halted = b.halted := ended.halted
    obtain ⟨b', halt, halts⟩ := halt_ok sound₁ .flowFailed
    refine ⟨b', ?_, halts.sound, frame.trans halts.frame, ?_, ?_,
      by rw [halts.running, less, count], ?_⟩
    · rw [complete, running]
      simp only [count, done, frame.continueOnError]
      rw [if_pos ⟨stops.1, by rw [stops.2]; rfl⟩, halt]
    · rcases halts.skips i o.state id ended.stateOf_self with same | ⟨pending, _⟩
      · exact same
      · have terminal := o.state_isTerminal
        rw [pending] at terminal
        cases terminal
    · intro c s ne stateC
      exact halts.skips c s id ((ended.stateOf_ne ne).trans stateC)
    · rw [if_pos stops, halts.halted, halted]
  · obtain ⟨n, e, b', count, eq, sound', _, _, ended, frame, less⟩ :=
      complete_ended sound running o stops
    refine ⟨b', eq, sound', frame, ended.stateOf_self, ?_, by rw [less, count], ?_⟩
    · exact fun c s ne stateC => .inl ((ended.stateOf_ne ne).trans stateC)
    · rw [if_neg stops]
      exact ended.halted

theorem Sound.completes (sound : Sound deps b) {i : Nat} (running : b.stateOf i = some .running)
    {o : Outcome} (complete : b.complete i o = .ok b') : Completes deps b i o b' := by
  obtain ⟨b₁, eq, completes⟩ := complete_ok sound running o
  rw [complete] at eq
  cases eq
  exact completes

end Books

end KeyFlow
