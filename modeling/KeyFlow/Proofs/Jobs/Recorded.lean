import KeyFlow.Proofs.Jobs.Balanced

/-!
The order in which jobs come to their ends. In books that nobody halts, a job that is behind several
others without success carries the block of the one whose end was recorded first, provided that it
was added before any of them ended.
-/

namespace KeyFlow

theorem Entry.released_blocked (cause : Option SkipCause) (times : Nat) (e : Entry) :
    (e.released cause times).blocked = e.blocked.or (if times = 0 then none else cause) := by
  unfold released
  split <;> simp

namespace Books

/-! ## The record -/

/-- The jobs that are skipped on the way to the next one that may start, in order. -/
def passedOver (b : Books) : List Nat :=
  match _queue : b.ready with
  | [] => []
  | i :: rest =>
    match b.jobs[i]? with
    | none => []
    | some e =>
      match e.blocked with
      | none => []
      | some cause =>
        match _done : finish { b with ready := rest } i (.skipped cause) with
        | .error _ => []
        | .ok b => i :: b.passedOver
termination_by b.slots
decreasing_by
  have le := slots_finish _done
  simp only [slots] at le ⊢
  rw [_queue]
  simp
  omega

/-- The jobs that come to an end by a call that does not halt the books, in order. -/
def endedBy (b : Books) : Call → List Nat
  | .next => if b.isHalted || b.isFull then [] else b.passedOver
  | .complete i _ => if b.stateOf i = some .running then [i] else []
  | .add _ | .halt _ => []

/-- The jobs in the order in which their ends are recorded while the calls are played. -/
def record (b : Books) : List Call → List Nat
  | [] => []
  | call :: calls =>
    b.endedBy call ++ match b.ask call with
      | .ok (_, b) => b.record calls
      | .error _ => []

theorem passedOver_nil {b : Books} (queue : b.ready = []) : b.passedOver = [] := by
  rw [passedOver]
  split
  · rfl
  · rename_i queue'
    rw [queue] at queue'
    cases queue'

theorem passedOver_free {b : Books} {i : Nat} {rest : List Nat} {e : Entry}
    (queue : b.ready = i :: rest) (found : b.jobs[i]? = some e) (free : e.blocked = none) :
    b.passedOver = [] := by
  rw [passedOver]
  split
  · rfl
  · rename_i queue'
    rw [queue, List.cons.injEq] at queue'
    obtain ⟨rfl, rfl⟩ := queue'
    simp only [found, free]

theorem passedOver_blocked {b b₁ : Books} {i : Nat} {rest : List Nat} {e : Entry}
    {cause : SkipCause} (queue : b.ready = i :: rest) (found : b.jobs[i]? = some e)
    (block : e.blocked = some cause)
    (done : finish { b with ready := rest } i (.skipped cause) = .ok b₁) :
    b.passedOver = i :: b₁.passedOver := by
  rw [passedOver]
  split
  · rename_i queue'
    rw [queue] at queue'
    cases queue'
  · rename_i queue'
    rw [queue, List.cons.injEq] at queue'
    obtain ⟨rfl, rfl⟩ := queue'
    simp only [found, block]
    split
    · rename_i failed
      rw [done] at failed
      cases failed
    · rename_i done'
      rw [done, Except.ok.injEq] at done'
      rw [done']

/-! ## What the record says -/

variable {deps : List (List Nat)} {record : List Nat} {b b' : Books} {i : Nat}

/-- The block that job `c` gets from the first of its dependencies on the record that has one. -/
def firstBlock (deps : List (List Nat)) (b : Books) (record : List Nat) (c : Nat) :
    Option SkipCause :=
  record.findSome? fun d => if d ∈ deps[c]?.getD [] then b.blocksOf d else none

/-- The record lists the jobs that are at an end, and blocks go by their order on it. -/
structure Recorded (deps : List (List Nat)) (record : List Nat) (b : Books) : Prop where
  once : record.Nodup
  ended : ∀ c, c ∈ record ↔ b.hasEnded c = true
  blocked : ∀ (c : Nat) (e : Entry), b.jobs[c]? = some e →
    e.blocked = firstBlock deps b record c
  skipped : ∀ (c : Nat) (e : Entry) (cause : SkipCause), b.jobs[c]? = some e →
    e.state = .skipped cause → cause = .declined ∨ e.blocked = some cause

theorem hasEnded_congr {c : Nat} (same : b'.stateOf c = b.stateOf c) :
    b'.hasEnded c = b.hasEnded c := by
  rw [hasEnded, hasEnded, same]

/-- Blocks of the recorded jobs are kept. -/
theorem firstBlock_congr {c : Nat} (same : ∀ d ∈ record, b'.blocksOf d = b.blocksOf d) :
    firstBlock deps b' record c = firstBlock deps b record c := by
  induction record with
  | nil => rfl
  | cons d record ih =>
    obtain ⟨here, later⟩ := List.forall_mem_cons.mp same
    have rest := ih later
    rw [firstBlock] at rest ⊢
    rw [firstBlock, List.findSome?_cons, List.findSome?_cons, here, rest]
    rfl

/-- The end of a job goes on the record. -/
theorem Recorded.ended_job (recorded : Recorded deps record b) (tied : Tied deps b) {e : Entry}
    {s : JobState} (found : b.jobs[i]? = some e) (live : e.state.isTerminal = false)
    (terminal : s.isTerminal = true) (may : MayEnd e s) (ended : Ended i e s b b') :
    Recorded deps (record ++ [i]) b' := by
  have new : i ∉ record := by
    rw [recorded.ended, hasEnded_eq found, live]
    exact nofun
  have kept (c : Nat) : firstBlock deps b' record c = firstBlock deps b record c := by
    refine firstBlock_congr fun d mem => ended.blocksOf_ne ?_
    rintro rfl
    exact new mem
  have first (c : Nat) : firstBlock deps b' (record ++ [i]) c =
      (firstBlock deps b record c).or (if i ∈ deps[c]?.getD [] then s.blocks else none) := by
    rw [← kept, firstBlock, List.findSome?_append, ← firstBlock, List.findSome?_singleton,
      ended.blocksOf_self]
  constructor
  case once =>
    rw [List.nodup_append_comm]
    exact List.nodup_cons.mpr ⟨new, recorded.once⟩
  case ended =>
    intro c
    rw [List.mem_append, List.mem_singleton, recorded.ended]
    by_cases same : c = i
    · rw [same, hasEnded_eq ended.self]
      simp [terminal]
    · rw [hasEnded_congr (ended.stateOf_ne same)]
      simp [same]
  case blocked =>
    intro c x' found'
    rw [first]
    rcases ended.cases found' with ⟨rfl, rfl⟩ | ⟨ne, x, foundx, rfl⟩
    · have apart : c ∉ deps[c]?.getD [] := fun named =>
        Nat.lt_irrefl c (tied.earlier c c named)
      rw [if_neg apart, Option.or_none]
      exact recorded.blocked c e found
    · rw [Entry.released_blocked, recorded.blocked c x foundx, tied.consumers i e found live c]
      by_cases named : i ∈ deps[c]?.getD []
      · rw [if_pos named, if_neg (Nat.ne_of_gt (List.count_pos_iff.mpr named))]
      · rw [if_neg named, if_pos (List.count_eq_zero_of_not_mem named)]
  case skipped =>
    intro c x' cause found' skip
    rcases ended.cases found' with ⟨rfl, rfl⟩ | ⟨ne, x, foundx, rfl⟩
    · rcases may with ⟨_, declined⟩ | ⟨cause', block, rfl⟩
      · exact .inl (declined cause skip)
      · rw [JobState.skipped.injEq] at skip
        exact .inr (skip ▸ block)
    · rw [Entry.released_state] at skip
      refine (recorded.skipped c x cause foundx skip).imp_right fun block => ?_
      rw [Entry.released_blocked, block]
      rfl

/-- Nothing is recorded when a job starts. -/
theorem Recorded.start (recorded : Recorded deps record b) {e : Entry} {rest : List Nat}
    (found : b.jobs[i]? = some e) (pending : e.state = .pending) :
    Recorded deps record (b.started i e rest) := by
  have blocks (d : Nat) : (b.started i e rest).blocksOf d = b.blocksOf d :=
    blocksOf_started rest found pending d
  constructor
  case once => exact recorded.once
  case ended =>
    intro c
    rw [recorded.ended, hasEnded, hasEnded, stateOf_started rest found]
    by_cases same : c = i
    · rw [if_pos same, same, stateOf_eq found, pending]
      rfl
    · rw [if_neg same]
  case blocked =>
    intro c x' found'
    rw [firstBlock_congr fun d _ => blocks d]
    rcases entry_set_cases found' with ⟨rfl, rfl⟩ | ⟨ne, foundx⟩
    · exact recorded.blocked c e found
    · exact recorded.blocked c x' foundx
  case skipped =>
    intro c x' cause found' skip
    rcases entry_set_cases found' with ⟨rfl, rfl⟩ | ⟨ne, foundx⟩
    · cases skip
    · exact recorded.skipped c x' cause foundx skip

theorem Recorded.pass_over (recorded : Recorded deps record b) (sound : Sound deps b)
    {r : Option Nat} (taken : b.takeReady = .ok (r, b')) :
    Recorded deps (record ++ b.passedOver) b' := by
  fun_induction takeReady b generalizing record with
  | case1 b queue =>
    cases taken
    rwa [passedOver_nil queue, List.append_nil]
  | case2 => cases taken
  | case3 b i rest queue e found free =>
    cases taken
    obtain ⟨x, foundx, pending, _⟩ :=
      (sound.lined.mem_iff i).mp (queue ▸ List.mem_cons_self ..)
    rw [found, Option.some.injEq] at foundx
    subst foundx
    rw [passedOver_free queue found free, List.append_nil]
    exact recorded.start found pending
  | case4 => cases taken
  | case5 b i rest queue e found cause block b₁ done ih =>
    obtain ⟨b₂, done', sound₁, ended, _, _, before⟩ := skip_ok sound queue found block
    rw [done, Except.ok.injEq] at done'
    subst done'
    have pending : e.state = .pending := by
      rw [stateOf_eq found, Option.some.injEq] at before
      exact before
    have same : Recorded deps record { b with ready := rest } :=
      ⟨recorded.once, recorded.ended, recorded.blocked, recorded.skipped⟩
    have recorded₁ := same.ended_job (sound.tied.congr rfl rfl) found (by rw [pending]; rfl) rfl
      (.inr ⟨cause, block, rfl⟩) ended
    have rest := ih recorded₁ sound₁ taken
    rwa [passedOver_blocked queue found block done, ← List.singleton_append, ← List.append_assoc]

/-! ## Calls -/

theorem Recorded.create (limit : Limit) (continueOnError : Bool) :
    Recorded [] [] (Books.create limit continueOnError) := by
  constructor <;> simp [Books.create, hasEnded, stateOf]

/-- Nothing is recorded when a job is added to open books, and as long as nothing was recorded the
new job has no block. -/
theorem Recorded.add (recorded : Recorded deps [] b) {ds : List Nat} {e : Entry}
    (unhalted : b.halted = none) (added : Added ds e b b') : Recorded (deps ++ [ds]) [] b' := by
  have pending : e.state = .pending := by
    rcases added.state_cases with ⟨_, pending⟩ | ⟨_, closed, _⟩
    · exact pending
    · rw [unhalted] at closed
      cases closed
  have free : e.blocked = none := by
    rw [added.blocked, List.findSome?_eq_none_iff]
    intro d named
    obtain ⟨x, found⟩ : ∃ x, b.jobs[d]? = some x :=
      ⟨_, List.getElem?_eq_getElem (added.known d named)⟩
    refine blocksOf_live found ?_
    cases ended : x.state.isTerminal with
    | false => rfl
    | true =>
      rw [← hasEnded_eq found, ← recorded.ended] at ended
      cases ended
  refine ⟨List.nodup_nil, fun c => ?_, fun c x' found' => ?_, fun c x' cause found' skip => ?_⟩
  · rw [List.mem_nil_iff, false_iff]
    intro ended
    cases state : b'.stateOf c with
    | none => rw [hasEnded, state] at ended; cases ended
    | some s =>
      obtain ⟨x', found', rfl⟩ := entry_of_stateOf state
      rw [hasEnded_eq found'] at ended
      rcases added.cases found' with ⟨rfl, rfl⟩ | ⟨_, x, foundx, rfl⟩
      · rw [pending] at ended
        cases ended
      · have before : b.hasEnded c = true := (hasEnded_eq foundx).trans ended
        rw [← recorded.ended] at before
        cases before
  · rcases added.cases found' with ⟨rfl, rfl⟩ | ⟨_, x, foundx, rfl⟩
    · exact free
    · exact recorded.blocked c x foundx
  · rcases added.cases found' with ⟨rfl, rfl⟩ | ⟨_, x, foundx, rfl⟩
    · rw [pending] at skip
      cases skip
    · exact recorded.skipped c x cause foundx skip

theorem Recorded.next (recorded : Recorded deps record b) (sound : Sound deps b) {r : Option Nat}
    (eq : b.nextDispatch = .ok (r, b')) : Recorded deps (record ++ b.endedBy .next) b' := by
  rw [nextDispatch] at eq
  rw [endedBy]
  split at eq
  · rename_i shut
    cases eq
    rwa [if_pos shut, List.append_nil]
  · rename_i unhalted
    rw [if_neg unhalted]
    exact recorded.pass_over sound eq

theorem Recorded.complete (recorded : Recorded deps record b) (sound : Sound deps b)
    {o : Outcome}
    (goesOn : b.stateOf i = some .running → ¬ (o = .failed ∧ b.continueOnError = false))
    (eq : b.complete i o = .ok b') : Recorded deps (record ++ b.endedBy (.complete i o)) b' := by
  rw [endedBy]
  by_cases running : b.stateOf i = some .running
  · obtain ⟨n, e, b₁, _, done, _, found, may, ended, _⟩ :=
      complete_ended sound running o (goesOn running)
    rw [eq, Except.ok.injEq] at done
    subst done
    have live : e.state.isTerminal = false := by
      rw [stateOf_eq found, Option.some.injEq] at running
      rw [running]
      rfl
    have same : Recorded deps record { b with running := n } :=
      ⟨recorded.once, recorded.ended, recorded.blocked, recorded.skipped⟩
    rw [if_pos running]
    exact same.ended_job (sound.tied.congr rfl rfl) found live o.state_isTerminal may ended
  · rw [complete_of_not_running running, Except.ok.injEq] at eq
    subst eq
    rwa [if_neg running, List.append_nil]

end Books

end KeyFlow
