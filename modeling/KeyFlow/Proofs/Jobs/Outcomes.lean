import KeyFlow.Proofs.Jobs.Balanced

/-!
Runs that nobody halts, in which every job has an outcome of its own that it ends with if it runs.
At the end of such a run just the jobs whose dependencies all succeeded were started, and each
other one was skipped for a dependency that did not.
-/

namespace KeyFlow

/-- The job was skipped for one that it depends on. -/
def JobState.IsInherited (s : JobState) : Prop :=
  s = .skipped .dependencyDeclined ∨ s = .skipped .dependencyFailed

/-- The states are the same, up to which cause a skipped job inherited. -/
def JobState.Agrees (s s' : JobState) : Prop := s = s' ∨ s.IsInherited ∧ s'.IsInherited

namespace Books

namespace Call

/-- The dependencies of the job that the call adds. -/
def dependencies? : Call → Option (List Nat)
  | .add ds => some ds
  | _ => none

/-- A job is completed with its own outcome only, and nobody halts the books. -/
def Follows (outcome : Nat → Outcome) : Call → Prop
  | .complete j o => o = outcome j
  | .halt _ => False
  | .add _ | .next => True

instance (outcome : Nat → Outcome) : DecidablePred (Follows outcome)
  | .complete j o => inferInstanceAs (Decidable (o = outcome j))
  | .halt _ => inferInstanceAs (Decidable False)
  | .add _ | .next => inferInstanceAs (Decidable True)

end Call

/-- The job was handed out to be run. -/
def Started (log : List (Call × Answer)) (j : Nat) : Prop :=
  (Call.next, Answer.started (some j)) ∈ log

variable {outcome : Nat → Outcome} {deps : List (List Nat)} {log : List (Call × Answer)}
  {b b' : Books}

/-- What holds after every call: a job that was started runs or has ended with its outcome, behind
jobs that succeeded, and any other one is left for later or was skipped. -/
structure Following (outcome : Nat → Outcome) (deps : List (List Nat))
    (log : List (Call × Answer)) (b : Books) : Prop where
  logged : Logged deps log b
  unhalted : b.halted = none
  started : ∀ j, Started log j →
    b.stateOf j = some .running ∨ b.stateOf j = some (outcome j).state
  behind : ∀ j, Started log j → ∀ d ∈ deps[j]?.getD [], b.stateOf d = some .succeeded
  left : ∀ j s, ¬ Started log j → b.stateOf j = some s →
    s = .pending ∨ ∃ cause, s = .skipped cause ∧ cause ≠ .declined

theorem started_concat {call : Call} {answer : Answer} {j : Nat} :
    Started (log ++ [(call, answer)]) j ↔
      Started log j ∨ (call, answer) = (.next, .started (some j)) := by
  rw [Started, List.mem_append, List.mem_singleton, Started, eq_comm (a := (call, answer))]

namespace Following

theorem create (outcome : Nat → Outcome) (limit : Limit) (continueOnError : Bool) :
    Following outcome [] [] (Books.create limit continueOnError) where
  logged := .create limit continueOnError
  unhalted := rfl
  started := by simp [Started]
  behind := by simp [Started]
  left := by simp [Books.create, stateOf]

/-- A call after which the same jobs are in the books. The jobs in `out` are those that it starts
or completes; of the others it skips some. -/
theorem later (following : Following outcome deps log b) {call : Call} {answer : Answer}
    (logged : Logged deps (log ++ [(call, answer)]) b') (unhalted : b'.halted = none)
    (length : b'.jobs.length = b.jobs.length) {out : Nat → Prop} (skips : SkipsBut out b b')
    (begun : ∀ j, (call, answer) = (.next, .started (some j)) →
      b.stateOf j = some .pending ∧ b'.stateOf j = some .running ∧
        ∀ d ∈ deps[j]?.getD [], b.stateOf d = some .succeeded)
    (moved : ∀ j, out j → (call, answer) = (.next, .started (some j)) ∨
      b.stateOf j = some .running ∧ b'.stateOf j = some (outcome j).state) :
    Following outcome deps (log ++ [(call, answer)]) b' := by
  -- Whoever is at an end stays as it is.
  have kept {c : Nat} {s : JobState} (state : b.stateOf c = some s) (ended : s.isTerminal = true) :
      b'.stateOf c = some s := by
    by_cases here : out c
    · rcases moved c here with now | ⟨running, _⟩
      · rw [(begun c now).1, Option.some.injEq] at state
        subst state
        cases ended
      · rw [running, Option.some.injEq] at state
        subst state
        cases ended
    · rcases skips c s here state with same | ⟨rfl, _⟩
      · exact same
      · cases ended
  refine ⟨logged, unhalted, fun j started => ?_, fun j started d named => ?_,
    fun j s' unstarted state' => ?_⟩
  · rcases started_concat.mp started with before | now
    · rcases following.started j before with running | ended
      · by_cases here : out j
        · rcases moved j here with now | ⟨_, ended⟩
          · exact .inl (begun j now).2.1
          · exact .inr ended
        · rcases skips j _ here running with same | ⟨pending, _⟩
          · exact .inl same
          · cases pending
      · exact .inr (kept ended (outcome j).state_isTerminal)
    · exact .inl (begun j now).2.1
  · rcases started_concat.mp started with before | now
    · exact kept (following.behind j before d named) rfl
    · exact kept ((begun j now).2.2 d named) rfl
  · obtain ⟨before, now⟩ := not_or.mp fun h => unstarted (started_concat.mpr h)
    by_cases here : out j
    · rcases moved j here with started | ⟨running, _⟩
      · exact absurd started now
      · rcases following.left j _ before running with pending | ⟨_, skipped, _⟩
        · cases pending
        · cases skipped
    · have notDeclined : b'.halted ≠ some .declined := by simp [unhalted]
      rcases skips.cases length notDeclined here state' with same | ⟨_, skipped⟩
      · exact following.left j s' before same
      · exact .inr skipped

/-- A job is added. -/
theorem add (following : Following outcome deps log b) {ds : List Nat} {e : Entry}
    (added : Added ds e b b') :
    Following outcome (deps ++ [ds]) (log ++ [(.add ds, .added deps.length)]) b' := by
  have tied := following.logged.sound.tied
  have old {i : Nat} {s : JobState} (state : b.stateOf i = some s) : b'.stateOf i = some s := by
    rw [added.stateOf_old (lt_of_stateOf state), state]
  have before {j : Nat} (started : Started (log ++ [(.add ds, .added deps.length)]) j) :
      Started log j := (started_concat.mp started).resolve_right nofun
  refine ⟨following.logged.add (following.logged.sound.add added) (.of_stateOf fun _ _ => old),
    added.halted.trans following.unhalted, fun j started => ?_, fun j started d named => ?_,
    fun j s unstarted state => ?_⟩
  · exact (following.started j (before started)).imp old old
  · obtain ⟨s, state, _⟩ := following.logged.started j (before started)
    rw [tied.concat_old ds (lt_of_stateOf state)] at named
    exact old (following.behind j (before started) d named)
  · have unstarted : ¬ Started log j := fun h => unstarted (started_concat.mpr (.inl h))
    obtain ⟨x, found, rfl⟩ := entry_of_stateOf state
    rcases added.cases found with ⟨rfl, rfl⟩ | ⟨_, x, foundx, rfl⟩
    · rcases added.state_cases with ⟨_, pending⟩ | ⟨_, closed, _⟩
      · exact .inl pending
      · rw [following.unhalted] at closed
        cases closed
    · exact following.left j x.state unstarted (stateOf_eq foundx)

/-- Whatever is in the books was added. -/
theorem lt_length (following : Following outcome deps log b) {i : Nat} {s : JobState}
    (state : b.stateOf i = some s) : i < deps.length :=
  following.logged.sound.tied.length ▸ lt_of_stateOf state

/-- The step of a run. -/
theorem ask (following : Following outcome deps log b) {call : Call}
    (follows : call.Follows outcome) (known : ∀ ds, call = .add ds → ∀ d ∈ ds, d < deps.length)
    (goesOn : ∀ i < deps.length, ¬ (outcome i = .failed ∧ b.continueOnError = false)) :
    ∃ answer b', b.ask call = .ok (answer, b') ∧
      Following outcome (deps ++ call.dependencies?.toList) (log ++ [(call, answer)]) b' := by
  have sound := following.logged.sound
  cases call with
  | add ds =>
    have inBooks : ∀ d ∈ ds, d < b.jobs.length := fun d mem =>
      sound.tied.length ▸ known ds rfl d mem
    obtain ⟨e, b', eq, added⟩ := addJob_ok inBooks
    refine ⟨.added deps.length, b', by simp only [Books.ask, eq, sound.tied.length], ?_⟩
    exact following.add added
  | next =>
    obtain ⟨r, b', eq, answered⟩ := nextDispatch_ok sound
    have asked : b.ask .next = .ok (.started r, b') := by rw [Books.ask, eq]; rfl
    obtain ⟨r', b₁, eq', _, moved, starts⟩ := ask_next sound
    rw [asked] at eq'
    cases eq'
    refine ⟨.started r, b', asked, ?_⟩
    rw [show deps ++ Call.next.dependencies?.toList = deps from List.append_nil deps]
    refine following.later ?_ (answered.halted.trans following.unhalted) answered.frame.length
      answered.skips ?_ ?_
    · refine following.logged.later answered.sound moved (by simp) fun j same => ?_
      cases same
      exact (starts j rfl).running
    · intro j same
      cases same
      have begins := answered.begins j rfl
      exact ⟨begins.pending, begins.running, begins.succeeded⟩
    · rintro j rfl
      exact .inl rfl
  | complete i o =>
    obtain ⟨b', eq, sound', moved⟩ := ask_complete sound i o
    refine ⟨.done, b', eq, ?_⟩
    rw [show deps ++ (Call.complete i o).dependencies?.toList = deps from List.append_nil deps]
    have noStart (j : Nat) : (Call.complete i o, Answer.done) ≠ (.next, .started (some j)) := by
      simp
    have logged' : Logged deps (log ++ [(.complete i o, .done)]) b' :=
      following.logged.later sound' moved (by simp) fun j same => absurd same (noStart j)
    have same : o = outcome i := follows
    subst same
    by_cases running : b.stateOf i = some .running
    · obtain ⟨b₁, done, completes⟩ := complete_ok sound running (outcome i)
      rw [Books.ask, done] at eq
      cases eq
      have halted := completes.halted
      rw [if_neg (goesOn i (following.lt_length running))] at halted
      refine following.later logged' (halted.trans following.unhalted) completes.frame.length
        completes.skips (fun j same => absurd same (noStart j)) ?_
      rintro j rfl
      exact .inr ⟨running, completes.ended⟩
    · rw [Books.ask, complete_of_not_running running] at eq
      cases eq
      exact following.later logged' following.unhalted rfl (.refl (fun _ => False) b)
        (fun j same => absurd same (noStart j)) fun _ no => no.elim
  | halt cause => exact follows.elim

end Following

/-- No failure halts the books. -/
def Tolerant (outcome : Nat → Outcome) (jobs : List (List Nat)) (continueOnError : Bool) : Prop :=
  continueOnError = true ∨ ∀ j < jobs.length, outcome j ≠ .failed

theorem Tolerant.goesOn {jobs : List (List Nat)} {continueOnError : Bool}
    (tolerant : Tolerant outcome jobs continueOnError) {i : Nat} (inRange : i < jobs.length) :
    ¬ (outcome i = .failed ∧ continueOnError = false) := by
  rintro ⟨failed, stops⟩
  rcases tolerant with continues | never
  · rw [stops] at continues
    cases continues
  · exact never i inRange failed

/-- Jobs depend on earlier jobs. -/
def Ordered (jobs : List (List Nat)) : Prop :=
  ∀ (j : Nat) (ds : List Nat), jobs[j]? = some ds → ∀ d ∈ ds, d < j

instance (jobs : List (List Nat)) : Decidable (Ordered jobs) :=
  decidable_of_iff (∀ j < jobs.length, ∀ d ∈ jobs[j]?.getD [], d < j) <| by
    refine ⟨fun all j ds placed => ?_, fun ordered j lt => ?_⟩
    · have here := all j (List.getElem?_eq_some_iff.mp placed).1
      rwa [placed] at here
    · rw [List.getElem?_eq_getElem lt]
      exact ordered j _ (List.getElem?_eq_getElem lt)

/-- The calls add these jobs in this order, complete them with their own outcomes, and do not halt
the books. -/
structure Drives (jobs : List (List Nat)) (outcome : Nat → Outcome) (calls : List Call) : Prop where
  jobs : calls.filterMap Call.dependencies? = jobs
  own : ∀ call ∈ calls, call.Follows outcome

/-- The first call of a run that goes on. -/
theorem Following.step (following : Following outcome deps log b) {more : List (List Nat)}
    {call : Call} {calls : List Call} (drives : Drives more outcome (call :: calls))
    (ordered : Ordered (deps ++ more))
    (tolerant : Tolerant outcome (deps ++ more) b.continueOnError) :
    ∃ answer b₁ later, b.ask call = .ok (answer, b₁) ∧
      more = call.dependencies?.toList ++ later ∧ Drives later outcome calls ∧
      Tolerant outcome (deps ++ more) b₁.continueOnError ∧
      Following outcome (deps ++ call.dependencies?.toList) (log ++ [(call, answer)]) b₁ := by
  obtain ⟨follows, own⟩ := List.forall_mem_cons.mp drives.own
  have split : more = call.dependencies?.toList ++ calls.filterMap Call.dependencies? := by
    rw [← drives.jobs]
    cases h : call.dependencies? <;> simp [h]
  have known : ∀ ds, call = .add ds → ∀ d ∈ ds, d < deps.length := by
    rintro ds rfl
    exact ordered deps.length ds (by simp [split, Call.dependencies?])
  have goesOn : ∀ i < deps.length, ¬ (outcome i = .failed ∧ b.continueOnError = false) :=
    fun i lt => tolerant.goesOn (by rw [List.length_append]; omega)
  obtain ⟨answer, b₁, eq, following₁⟩ := following.ask follows known goesOn
  rw [← (ask_settings following.logged.sound eq).2] at tolerant
  exact ⟨answer, b₁, _, eq, split, ⟨rfl, own⟩, tolerant, following₁⟩

theorem Following.play (following : Following outcome deps log b) {more : List (List Nat)}
    {calls : List Call} (drives : Drives more outcome calls) (ordered : Ordered (deps ++ more))
    (tolerant : Tolerant outcome (deps ++ more) b.continueOnError) :
    ∃ b', (b.play calls).2 = .ok b' ∧
      Following outcome (deps ++ more) (log ++ (b.play calls).1) b' := by
  induction calls generalizing deps more log b with
  | nil =>
    obtain ⟨rfl, _⟩ := drives
    exact ⟨b, rfl, by simpa [Books.play] using following⟩
  | cons call calls ih =>
    obtain ⟨answer, b₁, later, eq, rfl, drives₁, tolerant₁, following₁⟩ :=
      following.step drives ordered tolerant
    rw [← List.append_assoc] at ordered tolerant₁ ⊢
    obtain ⟨b', played, following'⟩ := ih following₁ drives₁ ordered tolerant₁
    rw [List.append_assoc log] at following'
    rw [Books.play, eq]
    exact ⟨b', played, following'⟩

/-! ## The end of a run -/

/-- What became of the jobs of a finished run. -/
structure Settled (jobs : List (List Nat)) (outcome : Nat → Outcome)
    (log : List (Call × Answer)) (b : Books) : Prop where
  length : b.states.length = jobs.length
  started : ∀ (j : Nat) (ds : List Nat), jobs[j]? = some ds →
    (Started log j ↔ ∀ d ∈ ds, b.stateOf d = some .succeeded)
  ran : ∀ j, Started log j → b.stateOf j = some (outcome j).state
  skipped : ∀ (j : Nat) (ds : List Nat), jobs[j]? = some ds → ¬ Started log j →
    ∃ d ∈ ds, ∃ cause, b.blocksOf d = some cause ∧ b.stateOf j = some (.skipped cause)

variable {jobs : List (List Nat)} {log' : List (Call × Answer)} {j : Nat}

theorem Following.settled (following : Following outcome jobs log b)
    (finished : b.isFinished = true) : Settled jobs outcome log b := by
  have sound := following.logged.sound
  have ended {j : Nat} {s : JobState} (state : b.stateOf j = some s) : s.isTerminal = true :=
    sound.isFinished_iff.mp finished s (List.mem_of_getElem? ((getElem?_states b j).trans state))
  have skipped (j : Nat) (ds : List Nat) (placed : jobs[j]? = some ds)
      (unstarted : ¬ Started log j) :
      ∃ d ∈ ds, ∃ cause, b.blocksOf d = some cause ∧ b.stateOf j = some (.skipped cause) := by
    have inRange : j < b.jobs.length := by
      rw [← sound.tied.length]
      exact (List.getElem?_eq_some_iff.mp placed).1
    have found := List.getElem?_eq_getElem inRange
    rcases following.left j _ unstarted (stateOf_eq found) with pending | ⟨cause, skip, ne⟩
    · have live := ended (stateOf_eq found)
      rw [pending] at live
      cases live
    · rcases sound.tied.skipped j _ cause found skip with declined | halted | ⟨d, named, blocks⟩
      · exact absurd declined ne
      · rw [following.unhalted] at halted
        cases halted
      · rw [placed, Option.getD_some] at named
        exact ⟨d, named, cause, blocks, by rw [stateOf_eq found, skip]⟩
  refine ⟨(List.length_map ..).trans sound.tied.length.symm,
    fun j ds placed => ⟨fun started d named => ?_, fun succeeded => ?_⟩, fun j started => ?_,
    skipped⟩
  · refine following.behind j started d ?_
    rwa [placed, Option.getD_some]
  · by_contra unstarted
    obtain ⟨d, named, cause, blocks, _⟩ := skipped j ds placed unstarted
    rw [blocksOf_eq (succeeded d named)] at blocks
    cases blocks
  · refine (following.started j started).resolve_left fun running => ?_
    cases ended running

namespace Settled

theorem lt_of_started (settled : Settled jobs outcome log b) (started : Started log j) :
    j < jobs.length := by
  rw [← settled.length]
  have state := settled.ran j started
  rw [← getElem?_states] at state
  exact (List.getElem?_eq_some_iff.mp state).1

theorem succeeded_iff (settled : Settled jobs outcome log b) (inRange : j < jobs.length) :
    b.stateOf j = some .succeeded ↔ Started log j ∧ outcome j = .succeeded := by
  by_cases started : Started log j
  · rw [settled.ran j started, Option.some.injEq, and_iff_right started]
    exact ⟨fun same => Outcome.state_inj same, fun same => by rw [same]; rfl⟩
  · obtain ⟨_, _, cause, _, skip⟩ :=
      settled.skipped j _ (List.getElem?_eq_getElem inRange) started
    rw [skip]
    simp [started]

/-- A job that was not started inherited its cause, however far back it comes from. -/
theorem isInherited (settled : Settled jobs outcome log b) (ordered : Ordered jobs)
    (inRange : j < jobs.length) (unstarted : ¬ Started log j) :
    ∃ s, b.stateOf j = some s ∧ s.IsInherited := by
  induction j using Nat.strongRecOn with
  | ind j ih =>
    have placed := List.getElem?_eq_getElem inRange
    obtain ⟨d, named, cause, blocks, skip⟩ := settled.skipped j _ placed unstarted
    have lt := ordered j _ placed d named
    refine ⟨_, skip, ?_⟩
    by_cases started : Started log d
    · rw [blocksOf_eq (settled.ran d started)] at blocks
      cases result : outcome d with
      | succeeded => rw [result] at blocks; cases blocks
      | declined => rw [result] at blocks; cases blocks; exact .inl rfl
      | failed => rw [result] at blocks; cases blocks; exact .inr rfl
    · obtain ⟨s, state, inherited⟩ := ih d lt (Nat.lt_trans lt inRange) started
      rw [blocksOf_eq state] at blocks
      rcases inherited with rfl | rfl
      · cases blocks
        exact .inl rfl
      · cases blocks
        exact .inr rfl

/-- Two runs start the same jobs. The induction is on the index, for what a job depends on stands
before it. -/
theorem started_iff (settled : Settled jobs outcome log b) (settled' : Settled jobs outcome log' b')
    (ordered : Ordered jobs) (inRange : j < jobs.length) : Started log j ↔ Started log' j := by
  induction j using Nat.strongRecOn with
  | ind j ih =>
    have placed := List.getElem?_eq_getElem inRange
    rw [settled.started j _ placed, settled'.started j _ placed]
    refine forall₂_congr fun d named => ?_
    have lt := ordered j _ placed d named
    have inRange' := Nat.lt_trans lt inRange
    rw [settled.succeeded_iff inRange', settled'.succeeded_iff inRange', ih d lt inRange']

theorem agrees (settled : Settled jobs outcome log b) (settled' : Settled jobs outcome log' b')
    (ordered : Ordered jobs) (inRange : j < jobs.length) :
    ∃ s s', b.stateOf j = some s ∧ b'.stateOf j = some s' ∧ s.Agrees s' := by
  have same := settled.started_iff settled' ordered inRange
  by_cases started : Started log j
  · exact ⟨_, _, settled.ran j started, settled'.ran j (same.mp started), .inl rfl⟩
  · obtain ⟨s, state, inherited⟩ := settled.isInherited ordered inRange started
    obtain ⟨s', state', inherited'⟩ :=
      settled'.isInherited ordered inRange fun h => started (same.mpr h)
    exact ⟨s, s', state, state', .inr ⟨inherited, inherited'⟩⟩

end Settled

end Books

end KeyFlow
