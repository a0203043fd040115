import KeyFlow.Proofs.Flow.Watched
import KeyFlow.Proofs.Parallel.Result
import KeyFlow.Proofs.Parallel.Watched

/-!
Observers do not influence a run. Whatever emitter is told of a flow, and however often the states
of its scheduler are sampled, its jobs run in the same order and it comes to the same result; and a
recorder writes in a stack of emitters what it writes alone.
-/

namespace KeyFlow

theorem Report.Same.symm {σ : Type} {r r' : Report σ} (same : r.Same r') : r'.Same r :=
  ⟨same.scheduler.symm, same.states.symm, same.errors.symm, same.timeline.symm⟩

theorem Report.Same.trans {σ : Type} {r r' r'' : Report σ} (same : r.Same r')
    (same' : r'.Same r'') : r.Same r'' :=
  ⟨same'.scheduler.trans same.scheduler, same'.states.trans same.states,
    same'.errors.trans same.errors, same'.timeline.trans same.timeline⟩

namespace FlowReport

variable {α σ β : Type} {view : Sinks → β} {r r' r'' : FlowReport α σ}

theorem Alike.symm (alike : r.Alike view r') : r'.Alike view r := by
  refine ⟨alike.result.symm, ?_, alike.sinks.symm⟩
  have jobs := alike.jobs
  generalize r.jobs = a, r'.jobs = b at jobs
  cases jobs with
  | none => exact .none
  | some same => exact .some same.symm

theorem Alike.trans (alike : r.Alike view r') (alike' : r'.Alike view r'') :
    r.Alike view r'' := by
  refine ⟨alike'.result.trans alike.result, ?_, alike'.sinks.trans alike.sinks⟩
  have jobs := alike.jobs
  have jobs' := alike'.jobs
  generalize r.jobs = a, r'.jobs = b, r''.jobs = c at jobs jobs'
  cases jobs with
  | none => exact jobs'
  | some same =>
    cases jobs' with
    | some same' => exact .some (same.trans same')

end FlowReport

/-- A flow that runs under any emitter, which samples the states of its scheduler with any period,
as if nobody were told of it. -/
structure Unobserved {α σ : Type} (flow : String)
    (run : Emitter → Nat → Sinks → Course (FlowReport α σ) Sinks) : Prop where
  /-- Under any two emitters the flow comes to the same result, its jobs start and end in the same
  order and in the same states, and their bodies write the same notes. -/
  undisturbed : ∀ e e' flushMillis flushMillis' sinks,
    FlowCourse.Alike Sinks.notes (run e flushMillis sinks) (run e' flushMillis' sinks)
  /-- A recorder that is installed somewhere in an emitter writes what it writes alone. -/
  recorded : ∀ (e : Emitter) (b : Notebook) (samples : Bool) flushMillis sinks,
    e.Keeps b samples →
      FlowCourse.Alike (b.read flow) (run (b.keeper samples) flushMillis sinks)
        (run e flushMillis sinks)

/-- It is enough that whoever cannot tell two emitters apart cannot tell the runs apart, if the
right one samples whenever the left one does. -/
theorem Unobserved.of_alike {α σ : Type} {flow : String} (settings : RunSettings)
    {run : Emitter → Nat → Sinks → Course (FlowReport α σ) Sinks}
    (alike : ∀ {β : Type} {view : Sinks → β} {e e' : Emitter} {flushMillis flushMillis' : Nat},
      e.Matches view flow e' →
      Lifecycle.InTime e e' { settings with flushMillis }
        { settings with flushMillis := flushMillis' } → ∀ sinks,
        FlowCourse.Alike view (run e flushMillis sinks) (run e' flushMillis' sinks)) :
    Unobserved flow run where
  undisturbed e e' flushMillis flushMillis' sinks := by
    have silent (e : Emitter) (flushMillis : Nat) :
        FlowCourse.Alike Sinks.notes (run .silent 0 sinks) (run e flushMillis sinks) :=
      alike (Emitter.matches_notes flow .silent e) (fun on => by cases on) sinks
    exact ((silent e flushMillis).symm (fun _ _ => FlowReport.Alike.symm) fun _ _ => Eq.symm).trans
      (silent e' flushMillis') (fun _ _ _ => FlowReport.Alike.trans) fun _ _ _ h h' => h'.trans h
  recorded e b samples flushMillis sinks keeps := by
    refine alike ((Emitter.keeps_keeper b samples).matches keeps flow) (fun on => ⟨?_, rfl⟩) sinks
    have sampled : samples = true := by
      cases b <;> exact on
    subst sampled
    exact keeps.samples

/-- Neither the emitter of a flow or of parallel units nor the period with which states are sampled
has a part in what comes of a run, and no emitter has a part in what a recorder beside it writes. -/
theorem observers_do_not_interfere :
    (∀ (f : Flow) (inputs : List (Key × Value)) (token : Token),
      Unobserved f.name fun e flushMillis => (f.watchedBy e flushMillis).run inputs token) ∧
    (∀ (p : Parallel) (token : Token),
      Unobserved p.name fun e flushMillis => (p.watchedBy e flushMillis).run token) := by
  constructor
  · intro f inputs token
    refine .of_alike f.settings fun {_ _ e _ flushMillis _} same inTime sinks => ?_
    exact Flow.run_alike (f := f.watchedBy e flushMillis) same inTime inputs token sinks
  · intro p token
    refine .of_alike p.settings fun {_ _ e _ flushMillis _} same inTime sinks => ?_
    exact Parallel.run_alike (p := p.watchedBy e flushMillis) same inTime token sinks

/-- A recorder that samples states, two stacks deep. -/
def Emitter.nested : Emitter :=
  .stack [.recorder "outer" false, .stack [.log, .transcriber 0 true], .silent]

/-- As long as one of the two units sleeps, their states are sampled every other millisecond. -/
theorem observers_do_not_interfere_nested : ∃ r r' : FlowReport Unit Sinks,
    Emitter.nested.Keeps (.transcript 0) true ∧
      (Parallel.pair.watchedBy (.transcriber 0 true) 2).run {} { transcripts := [{}] } =
        .reported r ∧
      (Parallel.pair.watchedBy .nested 2).run {} { transcripts := [{}] } = .reported r' ∧
      FlowReport.Alike ((Notebook.transcript 0).read "pair") r r' := by
  have keeps : Emitter.nested.Keeps (.transcript 0) true := rfl
  obtain ⟨r, run⟩ := (Parallel.pair.watchedBy (.transcriber 0 true) 2).run_reported {}
    { transcripts := [{}] } Parallel.pair_unwaiting
  have alike := (observers_do_not_interfere.2 Parallel.pair {}).recorded .nested (.transcript 0)
    true 2 { transcripts := [{}] } keeps
  generalize other : (Parallel.pair.watchedBy .nested 2).run {} { transcripts := [{}] } = c at alike
  rw [show (Parallel.pair.watchedBy ((Notebook.transcript 0).keeper true) 2).run {} _ = _ from run]
    at alike
  cases alike with
  | reported same => exact ⟨r, _, keeps, run, rfl, same⟩

end KeyFlow
