import KeyFlow.Proofs.Jobs.Dispatch

/-!
Runs of calls on new books, in any order. As long as no job was refused, no call meets a fault,
the books stay sound, and what they hand out is safe to start.
-/

namespace KeyFlow

/-- The ways in which the state of a job may change. -/
inductive JobState.Moves : JobState → JobState → Prop where
  | start : Moves .pending .running
  | skip (cause : SkipCause) : Moves .pending (.skipped cause)
  | succeed : Moves .running .succeeded
  | fail : Moves .running .failed
  | decline : Moves .running (.skipped .declined)

theorem JobState.Moves.live {s s' : JobState} (moves : s.Moves s') : s.isTerminal = false := by
  cases moves <;> rfl

theorem Outcome.moves (o : Outcome) : JobState.Moves .running o.state := by
  cases o
  · exact .succeed
  · exact .decline
  · exact .fail

namespace Books

inductive Call where
  | add (dependencies : List Nat)
  | next
  | complete (job : Nat) (outcome : Outcome)
  | halt (cause : SkipCause)
  deriving DecidableEq, Repr

inductive Answer where
  | added (job : Nat)
  | refused (unknown : UnknownDependency)
  | started (job : Option Nat)
  | done
  deriving DecidableEq, Repr

def Answer.isRefused : Answer → Bool
  | .refused _ => true
  | _ => false

/-- One call and its answer. -/
def ask (b : Books) : Call → Except Fault (Answer × Books)
  | .add dependencies =>
    match b.addJob dependencies with
    | (.ok job, b) => .ok (.added job, b)
    | (.error unknown, b) => .ok (.refused unknown, b)
  | .next => b.nextDispatch.map fun (job, b) => (.started job, b)
  | .complete job outcome => (b.complete job outcome).map fun b => (.done, b)
  | .halt cause => (b.halt cause).map fun b => (.done, b)

/-- The calls one after another: those that were answered, and the books they leave. -/
def play (b : Books) : List Call → List (Call × Answer) × Except Fault Books
  | [] => ([], .ok b)
  | call :: calls =>
    match b.ask call with
    | .error f => ([], .error f)
    | .ok (answer, b) =>
      let (log, result) := b.play calls
      ((call, answer) :: log, result)

/-- Every job is as it was, or moved one step on. -/
def Moved (b b' : Books) : Prop :=
  ∀ (i : Nat) (s : JobState), b.stateOf i = some s →
    ∃ s', b'.stateOf i = some s' ∧ (s' = s ∨ s.Moves s')

/-- Job `j` is started: the books are open, it was pending, and all it depends on succeeded. -/
structure Starts (deps : List (List Nat)) (b b' : Books) (j : Nat) : Prop where
  halted : b.isHalted = false
  pending : b.stateOf j = some .pending
  running : b'.stateOf j = some .running
  dependencies : ∀ d ∈ deps[j]?.getD [], b.stateOf d = some .succeeded

variable {deps : List (List Nat)} {b b' : Books} {log : List (Call × Answer)}

theorem SkipsBut.moved {out : Nat → Prop} (skips : SkipsBut out b b')
    (moves : ∀ i s, out i → b.stateOf i = some s → ∃ s', b'.stateOf i = some s' ∧ s.Moves s') :
    Moved b b' := by
  intro i s state
  by_cases h : out i
  · obtain ⟨s', state', moves⟩ := moves i s h state
    exact ⟨s', state', .inr moves⟩
  · rcases skips i s h state with same | ⟨rfl, cause, skipped, _⟩
    · exact ⟨s, same, .inl rfl⟩
    · exact ⟨_, skipped, .inr (.skip cause)⟩

theorem Moved.of_stateOf (h : ∀ i s, b.stateOf i = some s → b'.stateOf i = some s) :
    Moved b b' := fun i s state => ⟨s, h i s state, .inl rfl⟩

/-- Nobody who is past the start comes back to it. -/
theorem Moved.past (moved : Moved b b') {i : Nat} {s : JobState} (state : b.stateOf i = some s)
    (past : s ≠ .pending) : ∃ s', b'.stateOf i = some s' ∧ s' ≠ .pending := by
  obtain ⟨s', state', same | moves⟩ := moved i s state
  · exact ⟨s', state', same ▸ past⟩
  · refine ⟨s', state', ?_⟩
    cases moves <;> nofun

/-- Whoever is at an end stays as it is. -/
theorem Moved.ended (moved : Moved b b') {i : Nat} {s : JobState} (state : b.stateOf i = some s)
    (terminal : s.isTerminal = true) : b'.stateOf i = some s := by
  obtain ⟨s', state', same | moves⟩ := moved i s state
  · exact same ▸ state'
  · rw [moves.live] at terminal
    cases terminal

/-! ## The answer to one call -/

/-- Signing up changes no state, also where it is refused. -/
theorem stateOf_signUp (index : Nat) (ds : List Nat) (e : Entry) (b : Books) (i : Nat) :
    (signUp index ds e b).2.stateOf i = b.stateOf i := by
  fun_induction signUp index ds e b with
  | case1 | case2 => rfl
  | case3 e b d ds dep found ended ih => exact ih
  | case4 e b d ds dep found live ih =>
    rw [ih, stateOf, stateOf, List.getElem?_set]
    split
    · rename_i same
      subst same
      rw [if_pos (List.getElem?_eq_some_iff.mp found).1, found]
      rfl
    · rfl

theorem ask_add (sound : Sound deps b) (ds : List Nat) :
    (∃ b', b.ask (.add ds) = .ok (.added deps.length, b') ∧ Sound (deps ++ [ds]) b' ∧
      Moved b b') ∨
    ∃ u b', b.ask (.add ds) = .ok (.refused u, b') ∧ Moved b b' := by
  by_cases known : ∀ d ∈ ds, d < b.jobs.length
  · left
    obtain ⟨e, b', eq, added⟩ := addJob_ok known
    refine ⟨b', by simp only [ask, eq, sound.tied.length], sound.add added, .of_stateOf ?_⟩
    intro i s state
    rw [added.stateOf_old (lt_of_stateOf state), state]
  · right
    simp only [not_forall, Nat.not_lt] at known
    obtain ⟨d, mem, far⟩ := known
    obtain ⟨u, b', eq⟩ := addJob_refused mem far
    refine ⟨u, b', by simp only [ask, eq], .of_stateOf fun i s state => ?_⟩
    have kept := stateOf_signUp b.jobs.length ds {} b i
    unfold addJob at eq
    split at eq
    · rename_i signed
      cases eq
      rw [signed] at kept
      rw [kept, state]
    · cases eq

theorem ask_next (sound : Sound deps b) :
    ∃ r b', b.ask .next = .ok (.started r, b') ∧ Sound deps b' ∧ Moved b b' ∧
      ∀ j, r = some j → Starts deps b b' j := by
  obtain ⟨r, b', eq, answered⟩ := nextDispatch_ok sound
  refine ⟨r, b', by rw [ask, eq]; rfl, answered.sound,
    answered.skips.moved fun i s here state => ?_, ?_⟩
  · have begins := answered.begins i here
    rw [begins.pending, Option.some.injEq] at state
    exact ⟨.running, begins.running, state ▸ .start⟩
  · intro j here
    have begins := answered.begins j here
    exact ⟨by rw [isHalted, begins.unhalted]; rfl, begins.pending, begins.running,
      begins.succeeded⟩

theorem ask_complete (sound : Sound deps b) (i : Nat) (o : Outcome) :
    ∃ b', b.ask (.complete i o) = .ok (.done, b') ∧ Sound deps b' ∧ Moved b b' := by
  by_cases running : b.stateOf i = some .running
  · obtain ⟨b', eq, completes⟩ := complete_ok sound running o
    refine ⟨b', by rw [ask, eq]; rfl, completes.sound,
      completes.skips.moved fun c s here state => ?_⟩
    rw [here, running, Option.some.injEq] at state
    exact ⟨o.state, here ▸ completes.ended, state ▸ o.moves⟩
  · exact ⟨b, by rw [ask, complete_of_not_running running]; rfl, sound, .of_stateOf fun _ _ h => h⟩

theorem ask_halt (sound : Sound deps b) (cause : SkipCause) :
    ∃ b', b.ask (.halt cause) = .ok (.done, b') ∧ Sound deps b' ∧ Moved b b' := by
  obtain ⟨b', eq, halts⟩ := halt_ok sound cause
  exact ⟨b', by rw [ask, eq]; rfl, halts.sound, halts.skips.moved fun _ _ no => no.elim⟩

/-- What a call to sound books does, one case for each way in which it is answered. -/
inductive Asked (deps : List (List Nat)) (b : Books) : Call → Answer → Books → Prop where
  | added {ds : List Nat} {e : Entry} {b' : Books} (added : Added ds e b b') :
    Asked deps b (.add ds) (.added b.jobs.length) b'
  | refused {ds : List Nat} {u : UnknownDependency} {b' : Books}
    (refused : b.addJob ds = (.error u, b')) : Asked deps b (.add ds) (.refused u) b'
  | next {r : Option Nat} {b' : Books} (answered : Answered deps b r b') :
    Asked deps b .next (.started r) b'
  | complete {i : Nat} {o : Outcome} {b' : Books} (running : b.stateOf i = some .running)
    (completes : Completes deps b i o b') : Asked deps b (.complete i o) .done b'
  | ignored {i : Nat} {o : Outcome} (idle : b.stateOf i ≠ some .running) :
    Asked deps b (.complete i o) .done b
  | halt {cause : SkipCause} {b' : Books} (halts : Halts deps b cause b') :
    Asked deps b (.halt cause) .done b'

theorem Sound.asked (sound : Sound deps b) {call : Call} {answer : Answer}
    (asked : b.ask call = .ok (answer, b')) : Asked deps b call answer b' := by
  cases call with
  | add ds =>
    by_cases known : ∀ d ∈ ds, d < b.jobs.length
    · obtain ⟨e, b₁, eq, added⟩ := addJob_ok known
      simp only [ask, eq, Except.ok.injEq, Prod.mk.injEq] at asked
      obtain ⟨rfl, rfl⟩ := asked
      exact .added added
    · simp only [not_forall, Nat.not_lt] at known
      obtain ⟨d, mem, far⟩ := known
      obtain ⟨u, b₁, eq⟩ := addJob_refused mem far
      simp only [ask, eq, Except.ok.injEq, Prod.mk.injEq] at asked
      obtain ⟨rfl, rfl⟩ := asked
      exact .refused eq
  | next =>
    obtain ⟨r, b₁, eq, answered⟩ := nextDispatch_ok sound
    rw [ask, eq] at asked
    cases asked
    exact .next answered
  | complete i o =>
    by_cases running : b.stateOf i = some .running
    · obtain ⟨b₁, eq, completes⟩ := complete_ok sound running o
      rw [ask, eq] at asked
      cases asked
      exact .complete running completes
    · rw [ask, complete_of_not_running running] at asked
      cases asked
      exact .ignored running
  | halt cause =>
    obtain ⟨b₁, eq, halts⟩ := halt_ok sound cause
    rw [ask, eq] at asked
    cases asked
    exact .halt halts

/-! ## A run of calls -/

/-- What the books and the log of the calls so far have to do with each other. -/
structure Logged (deps : List (List Nat)) (log : List (Call × Answer)) (b : Books) : Prop where
  sound : Sound deps b
  added : ∀ ds j, (.add ds, .added j) ∈ log ↔ deps[j]? = some ds
  started : ∀ j, (.next, .started (some j)) ∈ log → ∃ s, b.stateOf j = some s ∧ s ≠ .pending

theorem Logged.create (limit : Limit) (continueOnError : Bool) :
    Logged [] [] (Books.create limit continueOnError) :=
  ⟨.create limit continueOnError, by simp, by simp⟩

/-- A call after which the same jobs are in the books. -/
theorem Logged.later (logged : Logged deps log b) (sound : Sound deps b') (moved : Moved b b')
    {call : Call} {answer : Answer} (noAdd : ∀ ds j, (call, answer) ≠ (.add ds, .added j))
    (begun : ∀ j, (call, answer) = (.next, .started (some j)) → b'.stateOf j = some .running) :
    Logged deps (log ++ [(call, answer)]) b' where
  sound := sound
  added := by
    intro ds j
    rw [List.mem_append, List.mem_singleton, ← logged.added ds j]
    exact ⟨fun h => h.resolve_right (noAdd ds j).symm, .inl⟩
  started := by
    intro j mem
    rw [List.mem_append, List.mem_singleton] at mem
    rcases mem with before | now
    · obtain ⟨s, state, past⟩ := logged.started j before
      exact moved.past state past
    · exact ⟨.running, begun j now.symm, nofun⟩

/-- A call that adds a job. -/
theorem Logged.add (logged : Logged deps log b) {ds : List Nat} (sound : Sound (deps ++ [ds]) b')
    (moved : Moved b b') :
    Logged (deps ++ [ds]) (log ++ [(.add ds, .added deps.length)]) b' where
  sound := sound
  added := by
    intro ds' j
    rw [List.mem_append, List.mem_singleton, logged.added, List.getElem?_append]
    split
    · rename_i old
      constructor
      · rintro (h | h)
        · exact h
        · cases h
          omega
      · exact .inl
    · rename_i far
      rw [List.getElem?_eq_none (Nat.le_of_not_lt far), List.getElem?_singleton]
      constructor
      · rintro (h | h)
        · cases h
        · cases h
          simp
      · intro h
        split at h
        · cases h
          exact .inr (by rw [show j = deps.length by omega])
        · cases h
  started := by
    intro j mem
    rw [List.mem_append, List.mem_singleton] at mem
    rcases mem with before | now
    · obtain ⟨s, state, past⟩ := logged.started j before
      exact moved.past state past
    · cases now

/-- The step of a run: any call is answered, moves every job at most one step, and starts only
what is safe to start; and unless it was refused, the log goes on. -/
theorem Logged.ask (logged : Logged deps log b) (call : Call) :
    ∃ answer b', b.ask call = .ok (answer, b') ∧ Moved b b' ∧
      (∀ j, answer = .started (some j) → call = .next ∧ Starts deps b b' j) ∧
      (answer.isRefused = false → ∃ deps', Logged deps' (log ++ [(call, answer)]) b') := by
  cases call with
  | add ds =>
    rcases ask_add logged.sound ds with ⟨b', eq, sound, moved⟩ | ⟨u, b', eq, moved⟩
    · exact ⟨_, b', eq, moved, nofun, fun _ => ⟨_, logged.add sound moved⟩⟩
    · exact ⟨_, b', eq, moved, nofun, nofun⟩
  | next =>
    obtain ⟨r, b', eq, sound, moved, starts⟩ := ask_next logged.sound
    refine ⟨_, b', eq, moved, ?_, fun _ => ⟨deps, logged.later sound moved nofun ?_⟩⟩
    · rintro j ⟨⟩
      exact ⟨rfl, starts j rfl⟩
    · rintro j ⟨⟩
      exact (starts j rfl).running
  | complete i o =>
    obtain ⟨b', eq, sound, moved⟩ := ask_complete logged.sound i o
    exact ⟨_, b', eq, moved, nofun, fun _ => ⟨deps, logged.later sound moved nofun nofun⟩⟩
  | halt cause =>
    obtain ⟨b', eq, sound, moved⟩ := ask_halt logged.sound cause
    exact ⟨_, b', eq, moved, nofun, fun _ => ⟨deps, logged.later sound moved nofun nofun⟩⟩

theorem Logged.play (logged : Logged deps log b) (calls : List Call)
    (accepted : ∀ entry ∈ (b.play calls).1, entry.2.isRefused = false) :
    ∃ deps' b', (b.play calls).2 = .ok b' ∧ Logged deps' (log ++ (b.play calls).1) b' := by
  induction calls generalizing deps log b with
  | nil => exact ⟨deps, b, rfl, by simpa [Books.play] using logged⟩
  | cons call calls ih =>
    obtain ⟨answer, b₁, eq, _, _, goesOn⟩ := logged.ask call
    have unfolded : b.play (call :: calls) =
        ((call, answer) :: (b₁.play calls).1, (b₁.play calls).2) := by
      rw [Books.play, eq]
    rw [unfolded] at accepted ⊢
    obtain ⟨deps₁, logged₁⟩ := goesOn (accepted _ (List.mem_cons_self ..))
    obtain ⟨deps', b', result, logged'⟩ := ih logged₁ fun entry mem =>
      accepted entry (List.mem_cons_of_mem _ mem)
    refine ⟨deps', b', result, ?_⟩
    rw [List.append_assoc] at logged'
    exact logged'

/-- After any calls on new books of which none was refused, any further call is answered without a
fault and moves each job at most one step; and a job that is started is pending in books that are
not halted, was never started before, and was added, with dependencies that all succeeded. -/
theorem dispatch_is_safe (limit : Limit) (continueOnError : Bool) (calls : List Call)
    (accepted : ∀ entry ∈ ((create limit continueOnError).play calls).1,
      entry.2.isRefused = false) :
    ∃ b, ((create limit continueOnError).play calls).2 = .ok b ∧
      ∀ call, ∃ answer b', b.ask call = .ok (answer, b') ∧
        (∀ (i : Nat) (s : JobState), b.stateOf i = some s →
          ∃ s', b'.stateOf i = some s' ∧ (s' = s ∨ s.Moves s') ∧
            (s.isTerminal = true → s' = s)) ∧
        ∀ j, answer = .started (some j) →
          b.isHalted = false ∧ b.stateOf j = some .pending ∧ b'.stateOf j = some .running ∧
          (.next, .started (some j)) ∉ ((create limit continueOnError).play calls).1 ∧
          (∃ ds, (.add ds, .added j) ∈ ((create limit continueOnError).play calls).1) ∧
          ∀ ds, (.add ds, .added j) ∈ ((create limit continueOnError).play calls).1 →
            ∀ d ∈ ds, b.stateOf d = some .succeeded := by
  obtain ⟨deps, b, result, logged⟩ := (Logged.create limit continueOnError).play calls accepted
  rw [List.nil_append] at logged
  refine ⟨b, result, fun call => ?_⟩
  obtain ⟨answer, b', eq, moved, starts, _⟩ := logged.ask call
  refine ⟨answer, b', eq, fun i s state => ?_, fun j answered => ?_⟩
  · obtain ⟨s', state', moves⟩ := moved i s state
    refine ⟨s', state', moves, fun terminal => moves.resolve_right fun moves => ?_⟩
    rw [moves.live] at terminal
    cases terminal
  · obtain ⟨_, start⟩ := starts j answered
    obtain ⟨x, found, _⟩ := entry_of_stateOf start.pending
    have inRange : j < deps.length := by
      rw [logged.sound.tied.length]
      exact (List.getElem?_eq_some_iff.mp found).1
    refine ⟨start.halted, start.pending, start.running, fun again => ?_, ?_, fun ds mem => ?_⟩
    · obtain ⟨s, state, past⟩ := logged.started j again
      rw [start.pending, Option.some.injEq] at state
      exact past state.symm
    · exact ⟨deps[j], (logged.added _ j).mpr (List.getElem?_eq_getElem inRange)⟩
    · have dependencies := start.dependencies
      rw [(logged.added ds j).mp mem] at dependencies
      exact dependencies

/-- Two jobs, the second behind the first, which it names twice; the first has succeeded. -/
theorem dispatch_is_safe_behind :
    ∃ b b', ((create none false).play
        [.add [], .add [0, 0], .next, .complete 0 .succeeded]).2 = .ok b ∧
      b.ask .next = .ok (.started (some 1), b') ∧ b.stateOf 0 = some .succeeded := by
  have accepted : ∀ entry ∈ ((create none false).play
      [.add [], .add [0, 0], .next, .complete 0 .succeeded]).1, entry.2.isRefused = false := by
    decide +kernel
  have starts : (((create none false).play
      [.add [], .add [0, 0], .next, .complete 0 .succeeded]).2.bind (·.ask .next)).map (·.1) =
        .ok (.started (some 1)) := by
    decide +kernel
  obtain ⟨b, result, safe⟩ := dispatch_is_safe none false _ accepted
  obtain ⟨answer, b', eq, _, safe⟩ := safe .next
  rw [result, Except.bind, eq] at starts
  cases starts
  obtain ⟨_, _, _, _, _, succeeded⟩ := safe 1 rfl
  refine ⟨b, b', result, eq, succeeded [0, 0] ?_ 0 (List.mem_cons_self ..)⟩
  decide +kernel

end Books

end KeyFlow
