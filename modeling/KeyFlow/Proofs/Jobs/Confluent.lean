import KeyFlow.Proofs.Jobs.Outcomes
import KeyFlow.Proofs.Jobs.Recorded

/-!
What becomes of the jobs does not depend on how a run is scheduled: neither on how many may run at
once nor on the order in which they are completed. Only the cause of a skip does, for a job takes it
from whichever of its dependencies ended first without success.
-/

namespace KeyFlow

namespace Books

variable {outcome : Nat → Outcome} {deps jobs : List (List Nat)} {log : List (Call × Answer)}
  {record : List Nat} {b b' : Books}

/-- In a finished run every job is on the record, and one that was not started was skipped for the
first of its dependencies there that did not succeed. -/
structure FirstBlocked (jobs : List (List Nat)) (log : List (Call × Answer)) (record : List Nat)
    (b : Books) : Prop where
  all : record.Perm (List.range jobs.length)
  first : ∀ (j : Nat) (ds : List Nat), jobs[j]? = some ds → ¬ Started log j →
    ∃ d cause, record.find? (fun d => d ∈ ds ∧ b.stateOf d ≠ some .succeeded) = some d ∧
      b.blocksOf d = some cause ∧ b.stateOf j = some (.skipped cause)

/-- A job that is at an end blocks those behind it unless it succeeded. -/
theorem blocksOf_eq_none_iff {d : Nat} (ended : b.hasEnded d = true) :
    b.blocksOf d = none ↔ b.stateOf d = some .succeeded := by
  cases state : b.stateOf d with
  | none => rw [hasEnded, state] at ended; cases ended
  | some s =>
    rw [hasEnded, state] at ended
    rw [blocksOf_eq state, Option.some.injEq]
    refine ⟨JobState.blocks_eq_none ended, ?_⟩
    rintro rfl
    rfl

theorem Recorded.firstBlocked (recorded : Recorded jobs record b)
    (following : Following outcome jobs log b) (finished : b.isFinished = true) :
    FirstBlocked jobs log record b := by
  have sound := following.logged.sound
  have ended {c : Nat} : b.hasEnded c = true ↔ c < jobs.length := by
    rw [sound.tied.length, hasEnded, Option.any_eq_true]
    constructor
    · rintro ⟨s, state, _⟩
      exact lt_of_stateOf state
    · intro inRange
      have state := stateOf_eq (List.getElem?_eq_getElem inRange)
      refine ⟨_, state, sound.isFinished_iff.mp finished _ ?_⟩
      exact List.mem_of_getElem? ((getElem?_states b c).trans state)
  constructor
  case all =>
    refine (List.perm_ext_iff_of_nodup recorded.once List.nodup_range).mpr fun c => ?_
    rw [recorded.ended, ended, List.mem_range]
  case first =>
    intro j ds placed unstarted
    obtain ⟨_, _, cause, _, skip⟩ := (following.settled finished).skipped j ds placed unstarted
    obtain ⟨x, found, skipped⟩ := entry_of_stateOf skip
    have block : x.blocked = some cause := by
      refine (recorded.skipped j x cause found skipped).resolve_left ?_
      rintro rfl
      rcases following.left j _ unstarted skip with pending | ⟨cause, same, ne⟩
      · cases pending
      · rw [JobState.skipped.injEq] at same
        exact ne same.symm
    rw [recorded.blocked j x found, firstBlock, List.findSome?_eq_some_iff] at block
    obtain ⟨before, d, after, split, blocks, noneBefore⟩ := block
    rw [placed, Option.getD_some, Option.ite_none_right_eq_some] at blocks
    refine ⟨d, cause, ?_, blocks.2, skip⟩
    rw [List.find?_eq_some_iff_append]
    refine ⟨?_, before, after, split, fun x mem => ?_⟩
    · rw [decide_eq_true_eq]
      refine ⟨blocks.1, fun succeeded => ?_⟩
      rw [blocksOf_eq succeeded] at blocks
      cases blocks.2
    · have free := noneBefore x mem
      rw [placed, Option.getD_some] at free
      rw [Bool.not_eq_true', decide_eq_false_iff_not]
      rintro ⟨named, ne⟩
      rw [if_pos named] at free
      have recordedX : x ∈ record := by
        rw [split]
        exact List.mem_append_left _ mem
      exact ne ((blocksOf_eq_none_iff ((recorded.ended x).mp recordedX)).mp free)

/-! ## Runs -/

/-- A call that adds no job. -/
theorem Recorded.ask (recorded : Recorded deps record b)
    (following : Following outcome deps log b) (tolerant : Tolerant outcome deps b.continueOnError)
    {call : Call} {answer : Answer} (follows : call.Follows outcome)
    (noAdd : call.dependencies? = none) (eq : b.ask call = .ok (answer, b')) :
    Recorded deps (record ++ b.endedBy call) b' := by
  have sound := following.logged.sound
  cases call with
  | add ds => cases noAdd
  | next =>
    obtain ⟨r, b₁, done, _⟩ := nextDispatch_ok sound
    rw [Books.ask, done] at eq
    cases eq
    exact recorded.next sound done
  | complete i o =>
    have same : o = outcome i := follows
    subst same
    rw [Books.ask] at eq
    cases done : b.complete i (outcome i) with
    | error f => rw [done] at eq; cases eq
    | ok b₁ =>
      rw [done] at eq
      cases eq
      refine recorded.complete sound (fun running => ?_) done
      exact tolerant.goesOn (following.lt_length running)
  | halt cause => exact follows.elim

/-- The books record the ends of jobs while nobody adds any. -/
theorem Recorded.play (recorded : Recorded deps record b) (following : Following outcome deps log b)
    {calls : List Call} (drives : Drives [] outcome calls) (ordered : Ordered deps)
    (tolerant : Tolerant outcome deps b.continueOnError) (played : (b.play calls).2 = .ok b') :
    Recorded deps (record ++ b.record calls) b' := by
  induction calls generalizing record log b with
  | nil =>
    cases played
    rwa [Books.record, List.append_nil]
  | cons call calls ih =>
    obtain ⟨answer, b₁, later, eq, noneBefore, drives₁, tolerant₁, following₁⟩ :=
      following.step drives (by rwa [List.append_nil]) (by rwa [List.append_nil])
    obtain ⟨noAdd, rfl⟩ := List.nil_eq_append_iff.mp noneBefore
    rw [noAdd, List.append_nil] at following₁
    rw [List.append_nil] at tolerant₁
    have recorded₁ := recorded.ask following tolerant (drives.own call (List.mem_cons_self ..))
      (Option.toList_eq_nil_iff.mp noAdd) eq
    rw [Books.play, eq] at played
    rw [Books.record, eq, ← List.append_assoc]
    exact ih recorded₁ following₁ drives₁ tolerant₁ played

/-- The books record the ends of jobs after all jobs were added. -/
theorem Recorded.play_all (recorded : Recorded deps [] b)
    (following : Following outcome deps log b) {more : List (List Nat)} {rest : List Call}
    (drives : Drives more outcome (more.map .add ++ rest)) (ordered : Ordered (deps ++ more))
    (tolerant : Tolerant outcome (deps ++ more) b.continueOnError)
    (played : (b.play (more.map .add ++ rest)).2 = .ok b') :
    Recorded (deps ++ more) (b.record (more.map .add ++ rest)) b' := by
  induction more generalizing deps log b with
  | nil =>
    rw [List.append_nil] at ordered tolerant ⊢
    exact recorded.play following drives ordered tolerant played
  | cons ds more ih =>
    obtain ⟨answer, b₁, later, eq, same, drives₁, tolerant₁, following₁⟩ :=
      following.step drives ordered tolerant
    obtain ⟨_, rfl⟩ := List.cons.inj same
    have recorded₁ : Recorded (deps ++ [ds]) [] b₁ := by
      have inBooks : ∀ d ∈ ds, d < b.jobs.length := fun d mem =>
        following.logged.sound.tied.length ▸ ordered deps.length ds (by simp) d mem
      obtain ⟨e, b₂, done, added⟩ := addJob_ok inBooks
      simp only [Books.ask, done] at eq
      cases eq
      exact recorded.add following.unhalted added
    rw [List.append_cons] at ordered tolerant₁ ⊢
    rw [List.map_cons, List.cons_append, Books.play, eq] at played
    rw [List.map_cons, List.cons_append, Books.record, eq]
    exact ih recorded₁ following₁ drives₁ ordered tolerant₁ played

/-- Let jobs depend on earlier ones and have outcomes of their own, none of which halts the books.
Any two runs on them, whatever their limits and in whatever order they complete what runs, meet no
fault; and when they are finished, they started the same jobs and left every job in the same state,
up to which cause a skipped one inherited. A job is started just if all it depends on succeeded, and
then ends with its outcome. Otherwise it is skipped for one that did not succeed, and if the jobs
were all added first, for the one of these whose end was recorded first. -/
theorem runs_agree (jobs : List (List Nat)) (outcome : Nat → Outcome) (ordered : Ordered jobs)
    (limit limit' : Limit) (goesOn goesOn' : Bool) (tolerant : Tolerant outcome jobs goesOn)
    (tolerant' : Tolerant outcome jobs goesOn') (calls calls' : List Call)
    (drives : Drives jobs outcome calls) (drives' : Drives jobs outcome calls') :
    ∃ b b', ((create limit goesOn).play calls).2 = .ok b ∧
      ((create limit' goesOn').play calls').2 = .ok b' ∧
      (b.isFinished = true → Settled jobs outcome ((create limit goesOn).play calls).1 b ∧
        ∀ rest, calls = jobs.map .add ++ rest →
          FirstBlocked jobs ((create limit goesOn).play calls).1
            ((create limit goesOn).record calls) b) ∧
      (b.isFinished = true → b'.isFinished = true →
        (∀ j, Started ((create limit goesOn).play calls).1 j ↔
          Started ((create limit' goesOn').play calls').1 j) ∧
        ∀ j < jobs.length, ∃ s s', b.stateOf j = some s ∧ b'.stateOf j = some s' ∧
          s.Agrees s') := by
  have start := Following.create outcome limit goesOn
  obtain ⟨b, played, following⟩ := start.play drives ordered tolerant
  obtain ⟨b', played', following'⟩ :=
    (Following.create outcome limit' goesOn').play drives' ordered tolerant'
  refine ⟨b, b', played, played', fun finished => ⟨following.settled finished, ?_⟩,
    fun finished finished' => ?_⟩
  · rintro rest rfl
    have recorded := (Recorded.create limit goesOn).play_all start drives ordered tolerant played
    exact recorded.firstBlocked following finished
  · have settled := following.settled finished
    have settled' := following'.settled finished'
    refine ⟨fun j => ?_, fun j inRange => settled.agrees settled' ordered inRange⟩
    constructor
    · exact fun started =>
        (settled.started_iff settled' ordered (settled.lt_of_started started)).mp started
    · exact fun started =>
        (settled.started_iff settled' ordered (settled'.lt_of_started started)).mpr started

-- A job that is added late goes by the order in which it names what ended before.
example : ((create none true).play [.add [], .add [], .next, .next, .complete 0 .failed,
    .complete 1 .declined, .add [1, 0], .next]).2.map (·.stateOf 2) =
      .ok (some (.skipped .dependencyDeclined)) := by
  decide +kernel

/-- The first job declines, and every other one fails. -/
def declinedFirst : Nat → Outcome
  | 0 => .declined
  | _ => .failed

/-- Two jobs that end without success, a third that depends on both, and a fourth that depends on
the third; here one runs at a time. -/
def oneByOne : List Call :=
  [.add [], .add [], .add [0, 1], .add [2], .next, .complete 0 .declined, .next,
    .complete 1 .failed, .next]

/-- The same jobs; the first two run at once, and the second ends before the first. -/
def secondFirst : List Call :=
  [.add [], .add [], .add [0, 1], .add [2], .next, .next, .complete 1 .failed,
    .complete 0 .declined, .next]

/-- The third job is skipped in both runs, for different causes. -/
theorem runs_agree_skipped :
    ∃ b b', ((create (Limit.ofNat 1) true).play oneByOne).2 = .ok b ∧
      ((create none true).play secondFirst).2 = .ok b' ∧
      b.stateOf 2 = some (.skipped .dependencyDeclined) ∧
      b'.stateOf 2 = some (.skipped .dependencyFailed) ∧
      ∀ j < 4, ∃ s s', b.stateOf j = some s ∧ b'.stateOf j = some s' ∧ s.Agrees s' := by
  have one : ((create (Limit.ofNat 1) true).play oneByOne).2.map
      (fun b => (b.isFinished, b.stateOf 2)) =
        .ok (true, some (.skipped .dependencyDeclined)) := by
    decide +kernel
  have second : ((create none true).play secondFirst).2.map
      (fun b => (b.isFinished, b.stateOf 2)) = .ok (true, some (.skipped .dependencyFailed)) := by
    decide +kernel
  obtain ⟨b, b', played, played', _, agree⟩ := runs_agree [[], [], [0, 1], [2]] declinedFirst
    (by decide) (Limit.ofNat 1) none true true (.inl rfl) (.inl rfl) oneByOne secondFirst
    ⟨rfl, by decide⟩ ⟨rfl, by decide⟩
  rw [played] at one
  rw [played'] at second
  obtain ⟨finished, state⟩ := Prod.mk.inj (Except.ok.inj one)
  obtain ⟨finished', state'⟩ := Prod.mk.inj (Except.ok.inj second)
  exact ⟨b, b', played, played', state, state', (agree finished finished').2⟩

end Books

end KeyFlow
