import KeyFlow.Proofs.Jobs.Calls
import Mathlib.Data.List.TakeWhile

/-!
Calls that are refused. A job that names an unknown dependency is not entered, but it stays noted as
a consumer of the open jobs that it named before. So a refusal leaves no trace just if there are
none of these, and then the call may as well be left out of a run.
-/

namespace KeyFlow

namespace Books

/-- The jobs that are named before the first unknown one. -/
def knownOf (b : Books) (ds : List Nat) : List Nat := ds.takeWhile (· < b.jobs.length)

/-- The job is in the books and not at an end. -/
def isOpen (b : Books) (i : Nat) : Bool := (b.stateOf i).any (!·.isTerminal)

/-- The books after a job with this index signed up with the open ones among `ds`. -/
def noting (b : Books) (index : Nat) (ds : List Nat) : Books :=
  { b with jobs := b.jobs.mapIdx fun i e =>
      { e with consumers := e.consumers ++
          List.replicate (if e.state.isTerminal then 0 else ds.count i) index } }

/-- Leaves out the calls that are refused. What comes behind a fault is never answered. -/
def accepted (b : Books) : List Call → List Call
  | [] => []
  | call :: calls =>
    match b.ask call with
    | .error _ => call :: calls
    | .ok (answer, b) => if answer.isRefused then b.accepted calls else call :: b.accepted calls

/-- No call is refused that names an open job before the unknown one. -/
def spotless (b : Books) : List Call → Bool
  | [] => true
  | call :: calls =>
    match b.ask call with
    | .error _ => true
    | .ok (answer, b') =>
      (match call with
        | .add ds => !answer.isRefused || (b.knownOf ds).all (!b.isOpen ·)
        | _ => true) && b'.spotless calls

variable {b b' : Books} {index : Nat} {ds : List Nat}

theorem SignedUp.eq_noting {e e' : Entry} (signed : SignedUp index ds e e' b b') :
    b' = b.noting index ds := by
  rw [signed.frame, noting]
  congr 1
  ext1 i
  rw [List.getElem?_mapIdx]
  cases found : b.jobs[i]? with
  | some x => exact signed.entries i x found
  | none =>
    rw [Option.map_none, List.getElem?_eq_none_iff, signed.length]
    exact List.getElem?_eq_none_iff.mp found

/-- A refused job is noted where it would be noted without the unknown dependency. -/
theorem signUp_unknown (ds : List Nat) {d : Nat} {rest : List Nat} (e : Entry) (b : Books)
    (known : ∀ d ∈ ds, d < b.jobs.length) (far : b.jobs.length ≤ d) :
    signUp index (ds ++ d :: rest) e b = (.error ⟨index, d⟩, (signUp index ds e b).2) := by
  fun_induction signUp index ds e b with
  | case1 e b =>
    rw [List.nil_append, signUp, List.getElem?_eq_none far]
  | case2 d' ds e b found =>
    have inRange := known d' (List.mem_cons_self ..)
    rw [List.getElem?_eq_getElem inRange] at found
    cases found
  | case3 d' ds e b dep found ended ih =>
    rw [List.cons_append, signUp, found]
    simp only [ended, if_true]
    exact ih (fun x mem => known x (List.mem_cons_of_mem _ mem)) far
  | case4 d' ds e b dep found live ih =>
    rw [List.cons_append, signUp, found]
    simp only [live, if_false, Bool.false_eq_true]
    refine ih (fun x mem => ?_) ?_
    · rw [List.length_set]
      exact known x (List.mem_cons_of_mem _ mem)
    · rw [List.length_set]
      exact far

theorem knownOf_inRange : ∀ d ∈ b.knownOf ds, d < b.jobs.length := by
  intro d mem
  have known := List.mem_takeWhile_imp mem
  simpa using known

/-- What a refusal leaves behind. -/
theorem addJob_error {u : UnknownDependency} (refused : b.addJob ds = (.error u, b')) :
    (∃ rest, ds = b.knownOf ds ++ u.dependency :: rest) ∧ u.job = b.jobs.length ∧
      b.jobs.length ≤ u.dependency ∧ b' = b.noting b.jobs.length (b.knownOf ds) := by
  have unknown : ∃ d ∈ ds, b.jobs.length ≤ d := by
    by_contra all
    simp only [not_exists, not_and, Nat.not_le] at all
    obtain ⟨e, b₁, eq, _⟩ := addJob_ok all
    rw [eq] at refused
    cases refused
  have known : ∀ d ∈ b.knownOf ds, d < b.jobs.length := knownOf_inRange
  cases last : ds.dropWhile (· < b.jobs.length) with
  | nil =>
    obtain ⟨d, mem, far⟩ := unknown
    have near := List.dropWhile_eq_nil_iff.mp last d mem
    simp only [decide_eq_true_eq] at near
    omega
  | cons d rest =>
    have far : b.jobs.length ≤ d := by
      have := List.head?_dropWhile_not (· < b.jobs.length) ds
      rw [last] at this
      simpa using this
    have split : ds = b.knownOf ds ++ d :: rest := by
      rw [← last, knownOf, List.takeWhile_append_dropWhile]
    rcases signUp_cases b.jobs.length (b.knownOf ds) {} b with ⟨e, b₁, eq, signed⟩ | ⟨x, mem, no, _⟩
    · have stops : signUp b.jobs.length (b.knownOf ds ++ d :: rest) {} b =
          (.error ⟨b.jobs.length, d⟩, (signUp b.jobs.length (b.knownOf ds) {} b).2) :=
        signUp_unknown (b.knownOf ds) {} b known far
      rw [← split, eq] at stops
      rw [addJob, stops] at refused
      cases refused
      exact ⟨⟨rest, split⟩, rfl, far, signed.eq_noting⟩
    · have := known x mem
      omega

/-- Nothing is noted where no job is open. -/
theorem noting_eq_self_iff (known : ∀ d ∈ ds, d < b.jobs.length) :
    b.noting index ds = b ↔ ∀ d ∈ ds, b.isOpen d = false := by
  have entry (i : Nat) : (b.noting index ds).jobs[i]? = b.jobs[i]?.map fun e =>
      { e with consumers := e.consumers ++
          List.replicate (if e.state.isTerminal then 0 else ds.count i) index } :=
    List.getElem?_mapIdx
  have state {i : Nat} {e : Entry} (found : b.jobs[i]? = some e) :
      b.isOpen i = !e.state.isTerminal := by
    rw [isOpen, stateOf_eq found]
    rfl
  constructor
  · intro same d mem
    have inRange := known d mem
    have found := List.getElem?_eq_getElem inRange
    have kept := entry d
    rw [same, found, Option.map_some, Option.some.injEq] at kept
    have counted := congrArg (fun e => e.consumers.length) kept
    simp only [List.length_append, List.length_replicate] at counted
    rw [state found]
    cases ended : b.jobs[d].state.isTerminal with
    | true => rfl
    | false =>
      have := List.count_pos_iff.mpr mem
      simp only [ended, Bool.false_eq_true, if_false] at counted
      omega
  · intro noDebt
    rw [noting]
    congr 1
    ext1 i
    rw [List.getElem?_mapIdx]
    cases found : b.jobs[i]? with
    | none => rfl
    | some e =>
      have zero : (if e.state.isTerminal then 0 else ds.count i) = 0 := by
        split
        · rfl
        · rename_i live
          refine List.count_eq_zero.mpr fun mem => live ?_
          have closed := noDebt i mem
          rw [state found] at closed
          simpa using closed
      rw [Option.map_some, zero, List.replicate_zero, List.append_nil]

/-- Only jobs are refused. -/
theorem add_of_refused {call : Call} {answer : Answer} (asked : b.ask call = .ok (answer, b'))
    (refused : answer.isRefused = true) : ∃ ds, call = .add ds := by
  cases call with
  | add ds => exact ⟨ds, rfl⟩
  | next | complete | halt =>
    rw [ask, Except.map.eq_def] at asked
    split at asked <;> cases asked
    cases refused

theorem ask_refused {answer : Answer} (asked : b.ask (.add ds) = .ok (answer, b'))
    (refused : answer.isRefused = true) (clean : ∀ d ∈ b.knownOf ds, b.isOpen d = false) :
    b' = b := by
  rw [ask] at asked
  split at asked
  · cases asked
    cases refused
  · rename_i eq
    cases asked
    obtain ⟨_, _, _, left⟩ := addJob_error eq
    rw [left]
    exact (noting_eq_self_iff knownOf_inRange).mpr clean

/-- Calls that are refused without a trace may as well be left out. -/
theorem play_accepted (calls : List Call) (b : Books) (clean : b.spotless calls = true) :
    b.play (b.accepted calls) =
      ((b.play calls).1.filter (!·.2.isRefused), (b.play calls).2) := by
  induction calls generalizing b with
  | nil => rfl
  | cons call calls ih =>
    rw [spotless] at clean
    rw [accepted, play]
    cases asked : b.ask call with
    | error f =>
      rw [play, asked]
      rfl
    | ok answered =>
      obtain ⟨answer, b'⟩ := answered
      simp only [asked, Bool.and_eq_true] at clean ⊢
      obtain ⟨here, later⟩ := clean
      rcases refused : answer.isRefused with _ | _
      · rw [if_neg Bool.false_ne_true, List.filter_cons_of_pos (by simp [refused]), play, asked]
        simp only [ih b' later]
      · obtain ⟨ds, rfl⟩ := add_of_refused asked refused
        have same := ask_refused asked refused (by simpa [refused] using here)
        rw [if_pos rfl, List.filter_cons_of_neg (by simp [refused]), ← ih b' later, same]

/-- A refusal leaves exactly the notes of the open jobs that are named before the first unknown one,
and nothing just if there are none. Where that holds of all refusals in a run on new books, leaving
these calls out changes no other answer, neither the books at the end nor the fault. -/
theorem refusal_traces (limit : Limit) (continueOnError : Bool) (calls : List Call) :
    (∀ (b b' : Books) (ds : List Nat) (u : UnknownDependency),
      b.addJob ds = (.error u, b') →
        (∃ rest, ds = b.knownOf ds ++ u.dependency :: rest) ∧ b.jobs.length ≤ u.dependency ∧
        b' = b.noting b.jobs.length (b.knownOf ds) ∧
        (b' = b ↔ ∀ d ∈ b.knownOf ds, b.isOpen d = false)) ∧
    ((create limit continueOnError).spotless calls = true →
      (create limit continueOnError).play ((create limit continueOnError).accepted calls) =
        (((create limit continueOnError).play calls).1.filter (!·.2.isRefused),
          ((create limit continueOnError).play calls).2)) := by
  refine ⟨fun b b' ds u refused => ?_, play_accepted calls _⟩
  obtain ⟨split, _, far, left⟩ := addJob_error refused
  refine ⟨split, far, left, ?_⟩
  rw [left]
  exact noting_eq_self_iff knownOf_inRange

/-- The first job has succeeded when the second one is refused behind it; a third one takes its
place. -/
theorem refusal_traces_ended :
    (create none false).spotless
        [.add [], .next, .complete 0 .succeeded, .add [0, 9], .add [0], .next] = true ∧
      ((create none false).play
        [.add [], .next, .complete 0 .succeeded, .add [0], .next]).2 =
      ((create none false).play
        [.add [], .next, .complete 0 .succeeded, .add [0, 9], .add [0], .next]).2 := by
  have clean : (create none false).spotless
      [.add [], .next, .complete 0 .succeeded, .add [0, 9], .add [0], .next] = true := by
    decide +kernel
  have left : (create none false).accepted
      [.add [], .next, .complete 0 .succeeded, .add [0, 9], .add [0], .next] =
        [.add [], .next, .complete 0 .succeeded, .add [0], .next] := by
    decide +kernel
  refine ⟨clean, ?_⟩
  have same := (refusal_traces none false _).2 clean
  rw [left] at same
  rw [same]

/-- An open job keeps the note of a refusal. When it ends there may be no such job, or another one
has the index: that one starts while the job that it waits for is still running. -/
theorem refusal_is_noted :
    (∃ u b', ((create none false).addJob []).2.addJob [0, 9] = (.error u, b') ∧
      b' ≠ ((create none false).addJob []).2) ∧
    (((create none false).play [.add [], .add [0, 9], .next, .complete 0 .succeeded]).2 =
        .error (.missingJob 1) ∧
      ((create none false).play [.add [], .next, .complete 0 .succeeded]).2.isOk = true) ∧
    (.next, .started (some 2)) ∈ ((create none false).play
      [.add [], .add [], .add [0, 9], .add [1], .next, .next, .complete 0 .succeeded, .next]).1 ∧
    (.next, .started (some 2)) ∉ ((create none false).play
      [.add [], .add [], .add [1], .next, .next, .complete 0 .succeeded, .next]).1 := by
  refine ⟨⟨⟨1, 9⟩, _, rfl, ?_⟩, ?_, ?_, ?_⟩
  · decide +kernel
  · decide +kernel
  · decide +kernel
  · decide +kernel

end Books

end KeyFlow
