import KeyFlow.Proofs.Parallel.Outcome

/-!
What the jobs of independent units tell. A job says what became of its body as soon as that has
ended, and before that nothing; a job that belongs to a slice or a map says it of failures only.
-/

namespace KeyFlow

namespace UnitPart

/-- What is told of a body that did not return. -/
def fault? (part : UnitPart) : Ending Unit → Option TaskEvent
  | .returned () => none
  | .failed e => some (.error e.toTrouble)
  | .panicked p => some (.panic (p.within part.label))

/-- What is told of a task, by what its body came to and the state of its job. -/
inductive Reports (part : UnitPart) : Option (Ending Unit) → JobState → List TaskEvent → Prop
  | succeeded : Reports part (some (.returned ())) .succeeded [.success, .done]
  | failed (e : Error) : Reports part (some (.failed e)) .failed [.error e.toTrouble, .done]
  | panicked (p : Panic) :
    Reports part (some (.panicked p)) .failed [.panic (p.within part.label), .done]
  | skipped (cause : SkipCause) : Reports part none (.skipped cause) [.skipped cause]

/-- What the job of the part has told when the run is over. -/
def told (part : UnitPart) (start : Machine Sinks) (job : Nat) : List TaskEvent :=
  match part.cameTo start job with
  | some e => part.events e
  | none => []

theorem told_of_part {part : UnitPart} (apart : part.whole = false) (start : Machine Sinks)
    (job : Nat) : part.told start job = ((part.cameTo start job).bind part.fault?).toList := by
  rw [told]
  cases part.cameTo start job with
  | none => rfl
  | some e => cases e <;> simp [events, WorkUnit.settle, fault?, apart]

/-- A task is reported by its job and by what is told in the end. -/
theorem Fares.reports {part : UnitPart} (whole : part.whole = true) {state : JobState}
    {start : Machine Sinks} {job : Nat} (fares : part.Fares (part.cameTo start job) state) :
    part.Reports (part.cameTo start job) state
      (part.told start job ++ (state.skipCause.map TaskEvent.skipped).toList) := by
  rw [told]
  generalize part.cameTo start job = came at fares
  cases fares with
  | succeeded =>
    simp only [events, WorkUnit.settle, whole]
    exact .succeeded
  | failed e fault =>
    cases e with
    | returned => cases fault
    | failed e =>
      simp only [events, WorkUnit.settle, whole]
      exact .failed e
    | panicked p =>
      simp only [events, WorkUnit.settle, whole]
      exact .panicked p
  | skipped cause => exact .skipped cause

end UnitPart

namespace WorkUnit

/-- The jobs of a unit with their numbers. -/
def numbered (first : Nat) (u : WorkUnit) : List (UnitPart × Nat) := (u.parts first).zipIdx first

/-- What is told of the jobs of a unit that failed, in the order of the jobs. -/
def faults (start : Machine Sinks) (first : Nat) (u : WorkUnit) : List TaskEvent :=
  (u.numbered first).filterMap fun q => (q.1.cameTo start q.2).bind q.1.fault?

/-- What is told of a slice or a map when all of its jobs are over. -/
inductive Summary (states : List JobState) : List TaskEvent → Prop
  | succeeded (all : ∀ state ∈ states, state = .succeeded) : Summary states [.success, .done]
  | skipped (cause : SkipCause) (unfailed : .failed ∉ states)
    (first : states.findSome? (·.skipCause) = some cause) : Summary states [.skipped cause]
  | failed (failed : .failed ∈ states) : Summary states []

/-- What is told of a unit whose jobs, from the first one on, end in these states. -/
inductive Reports (start : Machine Sinks) (first : Nat) (states : List JobState) :
    WorkUnit → List TaskEvent → Prop
  | task (name : String) (body : UnitBody) (part : UnitPart) (state : JobState)
    (events : List TaskEvent) (is : (WorkUnit.task name body).parts first = [part])
    (alone : states = [state]) (reports : part.Reports (part.cameTo start first) state events) :
    Reports start first states (.task name body) events
  | fanOut (name : String) (items : List UnitBody) (finish : Option UnitBody)
    (failing closing : List TaskEvent)
    (each : failing.Perm ((WorkUnit.fanOut name items finish).faults start first))
    (summary : Summary states closing) :
    Reports start first states (.fanOut name items finish) (failing ++ closing)

theorem unit_of_parts {u : WorkUnit} {first : Nat} {part : UnitPart} (mem : part ∈ u.parts first) :
    part.unit = u.name ∧ part.whole = !u.isFanOut := by
  cases u with
  | task name body =>
    rw [List.mem_singleton.mp mem]
    exact ⟨rfl, rfl⟩
  | fanOut name items finish =>
    rcases List.mem_append.mp mem with element | last
    · obtain ⟨i, within, rfl⟩ := List.mem_mapIdx.mp element
      exact ⟨rfl, rfl⟩
    · obtain ⟨body, is, rfl⟩ := List.mem_map.mp last
      exact ⟨rfl, rfl⟩

theorem numbered_places (u : WorkUnit) (first : Nat) :
    (u.numbered first).map (·.2) = u.places first :=
  List.zipIdx_map_snd ..

/-- All jobs of a slice or a map together are summed up in the end. -/
theorem summary_afterwards {u : WorkUnit} (fan : u.isFanOut = true) {states : List JobState}
    (terminal : ∀ state ∈ states, state.isTerminal = true) :
    Summary states (u.afterwards states) := by
  rw [afterwards]
  cases skipped : states.findSome? (·.skipCause) with
  | some cause =>
    simp only
    split
    · exact .failed ‹_›
    · exact .skipped cause ‹_› skipped
  | none =>
    simp only [fan, Bool.true_and]
    have unskipped := List.findSome?_eq_none_iff.mp skipped
    split
    · rename_i all
      refine .succeeded fun state mem => ?_
      simpa using List.all_eq_true.mp all state mem
    · rename_i other
      refine .failed ?_
      by_contra unfailed
      refine other (List.all_eq_true.mpr fun state mem => ?_)
      have ended := terminal state mem
      have clean := unskipped state mem
      cases state with
      | pending | running => cases ended
      | succeeded => rfl
      | failed => exact absurd mem unfailed
      | skipped cause => cases clean

end WorkUnit

namespace Parallel

/-- What the job of this number has told when the run is over. -/
def speech (p : Parallel) (start : Machine Sinks) (job : Nat) : List Happening :=
  match p.parts[job]? with
  | some part => Lifecycle.ofTask part.unit (part.told start job)
  | none => []

namespace Launched

variable {p : Parallel} {start m last : Machine Sinks} {job : Nat} {part : UnitPart}
  {rest : List Nat} {body : JobBody Sinks} {c : Conclusion} {ends : List (Nat × Conclusion)}
  {told : List (Option Nat × Happening)}

theorem speech_at (placed : p.parts[job]? = some part) :
    p.speech start job = Lifecycle.ofTask part.unit (part.told start job) := by
  rw [speech, placed]

/-- A job says nothing before its body has ended. -/
theorem speaks (launched : p.Launched start) (job : Nat) :
    start.Speaks p.tell id job (p.speech start job) where
  paused := by
    intro m rest body comes resting polls unended
    obtain ⟨part, placed⟩ := launched.part_of_polls comes polls
    cases (launched.opens placed).played launched.kept comes resting polls with
    | paused q within next w turn pause _ advance come =>
      have heard := (Process.within_turn (fun _ => .nothing) (fun _ _ _ => .trans) within
        (m.world job)).1
      rw [turn] at heard
      rw [advance]
      exact heard
    | ended q within a w w' c turn last advance come =>
      rw [advance] at unended
      exact absurd rfl (unended c)
  ended := by
    intro m rest body c comes resting polls ended
    obtain ⟨part, placed⟩ := launched.part_of_polls comes polls
    cases (launched.opens placed).played launched.kept comes resting polls with
    | paused q within next w turn pause unended advance come =>
      rw [advance] at ended
      exact absurd ended (unended c)
    | ended q within a w w' c' turn last advance come =>
      have heard := (Process.within_turn (fun _ => .nothing) (fun _ _ _ => .trans) within
        (m.world job)).1
      rw [turn] at heard
      rw [part.finish_turn] at last
      cases last
      have came : part.cameTo start job = some a.2 := by
        rw [UnitPart.cameTo, come]
        rfl
      rw [advance, speech_at placed, UnitPart.told, came]
      exact heard.trans (.all _)

/-- In a run that is over each job has told what it has to tell. -/
theorem spoken_at (launched : p.Launched start)
    (rests : Machine.Rests (p.parts.map (·.after)) start last ends)
    (spoken : Machine.Spoken p.tell id (p.speech start) start last told)
    (placed : p.parts[job]? = some part) :
    spokenBy (some job) told = Lifecycle.ofTask part.unit (part.told start job) := by
  obtain ⟨state, _, _, spent_iff⟩ := launched.fares rests placed
  by_cases spent : last.slots[job]? = some .spent
  · rw [spoken.ended job spent, speech_at placed]
  · rw [spoken.silent job spent, UnitPart.told]
    cases came : part.cameTo start job with
    | none => rfl
    | some e =>
      rw [came] at spent_iff
      exact absurd (spent_iff.mpr rfl) spent

end Launched

end Parallel

end KeyFlow
