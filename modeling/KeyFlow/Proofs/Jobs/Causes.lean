import KeyFlow.Proofs.Jobs.Outcomes
import Mathlib.Data.List.Induction
import Mathlib.Logic.Relation

/-!
Why a job was skipped. A cause reaches a job from a dependency that ended while the job waited for
it, from one that had ended before the job was added, or from a halt; and by whichever way it came,
what it says has happened.
-/

namespace KeyFlow

namespace Books

variable {deps : List (List Nat)} {first b b' : Books} {calls : List Call}
  {log : List (Call × Answer)}

/-! ## Runs that go on by one call -/

theorem play_concat {call : Call} {answer : Answer} (played : (first.play calls).2 = .ok b)
    (asked : b.ask call = .ok (answer, b')) :
    first.play (calls ++ [call]) = ((first.play calls).1 ++ [(call, answer)], .ok b') := by
  induction calls generalizing first with
  | nil =>
    cases played
    simp only [List.nil_append, play, asked]
  | cons call' calls ih =>
    rw [List.cons_append, play]
    rw [play] at played
    cases now : first.ask call' with
    | error f =>
      rw [now] at played
      cases played
    | ok answered =>
      rw [now] at played
      simp only [ih played, play, now, List.cons_append]

/-- The log of a run starts with the log of its beginning. -/
theorem play_isPrefix (first : Books) (calls more : List Call) :
    (first.play calls).1 <+: (first.play (calls ++ more)).1 := by
  induction calls generalizing first with
  | nil => exact List.nil_prefix
  | cons call calls ih =>
    rw [List.cons_append, play, play]
    cases first.ask call with
    | error f => exact List.prefix_rfl
    | ok answered => exact List.cons_prefix_cons.mpr ⟨rfl, ih answered.2⟩

/-! ## What a cause says -/

/-- The job was added with a dependency on the other one. -/
def DependsOn (log : List (Call × Answer)) (j d : Nat) : Prop :=
  ∃ ds, (Call.add ds, Answer.added j) ∈ log ∧ d ∈ ds

/-- The job was handed out, and declined while it ran. -/
def Declines (first : Books) (calls : List Call) (j : Nat) : Prop :=
  ∃ before after b, calls = before ++ .complete j .declined :: after ∧
    (first.play before).2 = .ok b ∧ b.stateOf j = some .running ∧
    Started (first.play before).1 j

/-- What has happened, in calls that left the books `b`, where a job is skipped for this cause. -/
def Grounds (first : Books) (calls : List Call) (b : Books) (j : Nat) : SkipCause → Prop
  | .declined => Declines first calls j
  | .dependencyDeclined => ∃ d, Relation.TransGen (DependsOn (first.play calls).1) j d ∧
      b.stateOf d = some (.skipped .declined)
  | .dependencyFailed => ∃ d, Relation.TransGen (DependsOn (first.play calls).1) j d ∧
      b.stateOf d = some .failed
  | .flowFailed => first.continueOnError = false ∧ ∃ i, b.stateOf i = some .failed
  | .cancelled => .halt .cancelled ∈ calls

/-- What has happened where all books were halted for this cause. -/
def HaltGrounds (first : Books) (calls : List Call) (b : Books) : SkipCause → Prop
  | .flowFailed => first.continueOnError = false ∧ ∃ i, b.stateOf i = some .failed
  | .cancelled => .halt .cancelled ∈ calls
  | .declined | .dependencyDeclined | .dependencyFailed => False

theorem HaltGrounds.grounds {cause : SkipCause} (halted : HaltGrounds first calls b cause)
    (j : Nat) : Grounds first calls b j cause := by
  cases cause with
  | flowFailed | cancelled => exact halted
  | declined | dependencyDeclined | dependencyFailed => exact halted.elim

/-- What a dependency was skipped for holds behind it too, as the cause that it hands down. -/
theorem Grounds.inherited {j d : Nat} {cause : SkipCause}
    (behind : DependsOn (first.play calls).1 j d)
    (skipped : b.stateOf d = some (.skipped cause)) (grounds : Grounds first calls b d cause) :
    Grounds first calls b j cause.inherited := by
  cases cause with
  | declined => exact ⟨d, .single behind, skipped⟩
  | dependencyDeclined | dependencyFailed =>
    obtain ⟨root, chain, state⟩ := grounds
    exact ⟨root, .head behind chain, state⟩
  | flowFailed | cancelled => exact grounds

theorem Declines.later {j : Nat} (declines : Declines first calls j) (more : List Call) :
    Declines first (calls ++ more) j := by
  obtain ⟨before, after, b, rfl, played, running, started⟩ := declines
  exact ⟨before, after ++ more, b, by simp, played, running, started⟩

theorem HaltGrounds.later {cause : SkipCause} (halted : HaltGrounds first calls b cause)
    (more : List Call) (moved : Moved b b') : HaltGrounds first (calls ++ more) b' cause := by
  cases cause with
  | flowFailed =>
    obtain ⟨stops, i, failed⟩ := halted
    exact ⟨stops, i, moved.ended failed rfl⟩
  | cancelled => exact List.mem_append_left _ halted
  | declined | dependencyDeclined | dependencyFailed => exact halted.elim

/-! ## Books in which every cause has its grounds -/

/-- What is kept from call to call: whoever runs was handed out, whoever declined ran before, and
the halt had a reason. -/
structure Reasoned (first : Books) (calls : List Call) (b : Books) : Prop where
  settings : b.continueOnError = first.continueOnError
  running : ∀ j, b.stateOf j = some .running → Started (first.play calls).1 j
  declined : ∀ j, b.stateOf j = some (.skipped .declined) → Declines first calls j
  halted : ∀ cause, b.halted = some cause → HaltGrounds first calls b cause

theorem Reasoned.create (limit : Limit) (continueOnError : Bool) :
    Reasoned (create limit continueOnError) [] (create limit continueOnError) := by
  constructor <;> simp [Books.create, stateOf]

/-- A call after which the same jobs are in the books. The jobs in `out` are those that it starts
or completes; of the others it skips some. -/
theorem Reasoned.later (reasoned : Reasoned first calls b) {call : Call} {answer : Answer}
    (log : (first.play (calls ++ [call])).1 = (first.play calls).1 ++ [(call, answer)])
    (settings : b'.continueOnError = b.continueOnError)
    (length : b'.jobs.length = b.jobs.length) {out : Nat → Prop} (skips : SkipsBut out b b')
    (running : ∀ j, out j → b'.stateOf j = some .running →
      (call, answer) = (.next, .started (some j)))
    (declined : ∀ j, out j → b'.stateOf j = some (.skipped .declined) →
      Declines first (calls ++ [call]) j)
    (halted : ∀ cause, b'.halted = some cause → HaltGrounds first (calls ++ [call]) b' cause) :
    Reasoned first (calls ++ [call]) b' := by
  refine ⟨settings.trans reasoned.settings, fun j runs => ?_, fun j declines => ?_, halted⟩
  · rw [log, started_concat]
    by_cases here : out j
    · exact .inr (running j here runs)
    · exact .inl (reasoned.running j (skips.before length here runs rfl))
  · by_cases here : out j
    · exact declined j here declines
    · have notDeclined : b'.halted ≠ some .declined := halted .declined
      rcases skips.cases length notDeclined here declines with before | ⟨_, cause, same, other⟩
      · exact (reasoned.declined j before).later [call]
      · cases same
        exact absurd rfl other

/-- A job is added. -/
theorem Reasoned.add (reasoned : Reasoned first calls b) (sound : Sound deps b) {ds : List Nat}
    {e : Entry} {answer : Answer}
    (log : (first.play (calls ++ [.add ds])).1 = (first.play calls).1 ++ [(.add ds, answer)])
    (added : Added ds e b b') (moved : Moved b b') : Reasoned first (calls ++ [.add ds]) b' := by
  have sound' := sound.add added
  have halted : ∀ cause, b'.halted = some cause →
      HaltGrounds first (calls ++ [.add ds]) b' cause := by
    intro cause closed
    rw [added.halted] at closed
    exact (reasoned.halted cause closed).later _ moved
  refine ⟨by rw [added.frame]; exact reasoned.settings, fun j runs => ?_, fun j declines => ?_,
    halted⟩
  · obtain ⟨x, found, state⟩ := entry_of_stateOf runs
    rw [log, started_concat]
    rcases added.cases found with ⟨_, rfl⟩ | ⟨_, x, foundx, rfl⟩
    · rcases added.state_cases with ⟨_, new⟩ | ⟨_, _, new⟩ <;> rw [new] at state <;> cases state
    · exact .inl (reasoned.running j ((stateOf_eq foundx).trans (congrArg some state)))
  · obtain ⟨x, found, state⟩ := entry_of_stateOf declines
    rcases added.cases found with ⟨_, rfl⟩ | ⟨_, x, foundx, rfl⟩
    · -- A new job is skipped for its block or for the halt, and neither is that it declined.
      rcases added.state_cases with ⟨_, new⟩ | ⟨cause, closed, new⟩
      · rw [new] at state
        cases state
      · rw [new, JobState.skipped.injEq] at state
        cases block : x.blocked with
        | none =>
          rw [block, Option.getD_none] at state
          subst state
          exact (reasoned.halted _ closed).elim
        | some before =>
          rw [block, Option.getD_some] at state
          subst state
          exact absurd block (sound'.tied.blocked_ne_declined found)
    · have before := (stateOf_eq foundx).trans (congrArg some state)
      exact (reasoned.declined j before).later _

/-- A running job ends. -/
theorem Reasoned.complete (reasoned : Reasoned first calls b)
    (played : (first.play calls).2 = .ok b) {i : Nat} {o : Outcome}
    (log : (first.play (calls ++ [.complete i o])).1 =
      (first.play calls).1 ++ [(.complete i o, .done)])
    (moved : Moved b b') (running : b.stateOf i = some .running)
    (completes : Completes deps b i o b') : Reasoned first (calls ++ [.complete i o]) b' := by
  have halted : ∀ cause, b.halted = some cause →
      HaltGrounds first (calls ++ [.complete i o]) b' cause := fun cause closed =>
    (reasoned.halted cause closed).later _ moved
  refine reasoned.later log completes.frame.continueOnError completes.frame.length completes.skips
    ?_ ?_ ?_
  · rintro j rfl runs
    rw [completes.ended, Option.some.injEq] at runs
    have terminal := o.state_isTerminal
    rw [runs] at terminal
    cases terminal
  · rintro j rfl declines
    rw [completes.ended, Option.some.injEq] at declines
    have declined : o = .declined := Outcome.state_inj declines
    subst declined
    exact ⟨calls, [], b, rfl, played, running, reasoned.running j running⟩
  · intro cause closed
    rw [completes.halted] at closed
    split at closed
    · rename_i stops
      rcases Option.or_eq_some_iff.mp closed with before | ⟨_, now⟩
      · exact halted cause before
      · cases now
        refine ⟨reasoned.settings ▸ stops.2, i, ?_⟩
        rw [completes.ended, stops.1]
        rfl
    · exact halted cause closed

/-- The step of a run. -/
theorem Reasoned.ask (reasoned : Reasoned first calls b) (logged : Logged deps log b)
    (played : (first.play calls).2 = .ok b) {call : Call} {answer : Answer}
    (asked : b.ask call = .ok (answer, b')) (accepted : answer.isRefused = false)
    (outside : ∀ cause, call = .halt cause → cause = .cancelled) :
    Reasoned first (calls ++ [call]) b' := by
  have log := congrArg Prod.fst (play_concat played asked)
  have settings := (ask_settings logged.sound asked).2
  obtain ⟨answer', b₁, eq, moved, _⟩ := logged.ask call
  rw [asked] at eq
  cases eq
  have halted : ∀ cause, b.halted = some cause →
      HaltGrounds first (calls ++ [call]) b' cause := fun cause closed =>
    (reasoned.halted cause closed).later _ moved
  cases logged.sound.asked asked with
  | added added => exact reasoned.add logged.sound log added moved
  | refused => cases accepted
  | next answered =>
    refine reasoned.later log settings answered.frame.length answered.skips ?_ ?_ ?_
    · rintro j rfl _
      rfl
    · rintro j rfl declines
      rw [(answered.begins j rfl).running] at declines
      cases declines
    · rw [answered.halted]
      exact halted
  | complete running completes => exact reasoned.complete played log moved running completes
  | ignored =>
    exact reasoned.later log settings rfl (.refl (fun _ => False) b) nofun nofun halted
  | @halt cause _ halts =>
    refine reasoned.later log settings halts.frame.length halts.skips nofun nofun ?_
    intro cause' closed
    rw [halts.halted] at closed
    rcases Option.or_eq_some_iff.mp closed with before | ⟨_, now⟩
    · exact halted cause' before
    · cases now
      cases outside cause rfl
      exact List.mem_append_right _ (List.mem_singleton_self _)

theorem Reasoned.play {limit : Limit} {continueOnError : Bool} (calls : List Call)
    (accepted : ∀ entry ∈ ((Books.create limit continueOnError).play calls).1,
      entry.2.isRefused = false)
    (outside : ∀ cause, .halt cause ∈ calls → cause = .cancelled) :
    ∃ deps b, ((Books.create limit continueOnError).play calls).2 = .ok b ∧
      Logged deps ((Books.create limit continueOnError).play calls).1 b ∧
      Reasoned (Books.create limit continueOnError) calls b := by
  induction calls using List.reverseRecOn with
  | nil => exact ⟨[], _, rfl, .create limit continueOnError, .create limit continueOnError⟩
  | append_singleton calls call ih =>
    obtain ⟨deps, b, played, logged, reasoned⟩ := ih
      (fun entry mem => accepted entry ((play_isPrefix _ calls [call]).subset mem))
      fun cause mem => outside cause (List.mem_append_left _ mem)
    obtain ⟨answer, b', asked, _, _, goesOn⟩ := logged.ask call
    have step := play_concat played asked
    have here : answer.isRefused = false := by
      refine accepted (call, answer) ?_
      rw [step]
      exact List.mem_append_right _ (List.mem_singleton_self _)
    obtain ⟨deps', logged'⟩ := goesOn here
    refine ⟨deps', b', by rw [step], by rwa [step], ?_⟩
    exact reasoned.ask logged played asked here fun cause same =>
      outside cause (same ▸ List.mem_append_right _ (List.mem_singleton_self _))

theorem Logged.dependsOn (logged : Logged deps log b) {j d : Nat} (named : d ∈ deps[j]?.getD []) :
    DependsOn log j d := by
  cases added : deps[j]? with
  | none => simp [added] at named
  | some ds =>
    rw [added, Option.getD_some] at named
    exact ⟨ds, (logged.added ds j).mpr added, named⟩

/-- Whichever way a cause took to a job, it has its grounds: along the dependencies, which are of
earlier jobs, down to one that failed or declined, or to a halt. -/
theorem Reasoned.grounds (reasoned : Reasoned first calls b)
    (logged : Logged deps (first.play calls).1 b) {j : Nat} {cause : SkipCause}
    (skipped : b.stateOf j = some (.skipped cause)) : Grounds first calls b j cause := by
  induction j using Nat.strongRecOn generalizing cause with
  | ind j ih =>
    obtain ⟨e, found, state⟩ := entry_of_stateOf skipped
    rcases logged.sound.tied.skipped j e cause found state with rfl | closed | ⟨d, named, blocks⟩
    · exact reasoned.declined j skipped
    · exact (reasoned.halted cause closed).grounds j
    · have behind := logged.dependsOn named
      obtain ⟨s, stateD, blocks⟩ := Option.bind_eq_some_iff.mp blocks
      cases s with
      | failed =>
        cases blocks
        exact ⟨d, .single behind, stateD⟩
      | skipped before =>
        cases blocks
        exact .inherited behind stateD (ih d (logged.sound.tied.earlier j d named) stateD)
      | pending | running | succeeded => cases blocks

/-- After any calls on new books of which none was refused, in which nobody outside halts them but
to cancel, whatever a job was skipped for has happened: it was handed out and declined, or a job
declined or failed on which it depends, over any number of others; or a job failed in books that do
not go on, or the books were cancelled. -/
theorem skip_causes_are_truthful (limit : Limit) (continueOnError : Bool) (calls : List Call)
    (accepted : ∀ entry ∈ ((create limit continueOnError).play calls).1,
      entry.2.isRefused = false)
    (outside : ∀ cause, .halt cause ∈ calls → cause = .cancelled) :
    ∃ b, ((create limit continueOnError).play calls).2 = .ok b ∧
      ∀ j cause, b.stateOf j = some (.skipped cause) →
        Grounds (create limit continueOnError) calls b j cause := by
  obtain ⟨deps, b, played, logged, reasoned⟩ := Reasoned.play calls accepted outside
  exact ⟨b, played, fun j cause skipped => reasoned.grounds logged skipped⟩

/-- The first job of a chain declines and the others are skipped. After a cancellation one more job
is added behind them: it is skipped for the first one and not for the cancellation. -/
theorem skip_causes_are_truthful_behind : ∃ b,
    ((create none false).play [.add [], .add [0], .add [1], .next, .complete 0 .declined, .next,
      .halt .cancelled, .add [2]]).2 = .ok b ∧
    b.stateOf 3 = some (.skipped .dependencyDeclined) ∧
    Grounds (create none false) [.add [], .add [0], .add [1], .next, .complete 0 .declined, .next,
      .halt .cancelled, .add [2]] b 3 .dependencyDeclined := by
  have accepted : ∀ entry ∈ ((create none false).play [.add [], .add [0], .add [1], .next,
      .complete 0 .declined, .next, .halt .cancelled, .add [2]]).1,
      entry.2.isRefused = false := by
    decide +kernel
  have skipped : ((create none false).play [.add [], .add [0], .add [1], .next,
      .complete 0 .declined, .next, .halt .cancelled, .add [2]]).2.map (·.stateOf 3) =
        .ok (some (.skipped .dependencyDeclined)) := by
    decide +kernel
  obtain ⟨b, played, grounds⟩ :=
    skip_causes_are_truthful none false _ accepted fun cause mem => by simpa using mem
  rw [played] at skipped
  have state := Except.ok.inj skipped
  exact ⟨b, played, state, grounds 3 _ state⟩

end Books

end KeyFlow
