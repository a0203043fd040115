import KeyFlow.Lifecycle
import KeyFlow.Proofs.Run.Sampled

/-!
Runs and who is told of them. Jobs that differ in what they tell are run in the same way, and so is
the flow around them; what is told comes to the same in the eyes of those who cannot tell the
emitters apart.
-/

namespace KeyFlow

/-! ## What runs come to -/

/-- The jobs came to the same states and errors, in the same order. -/
structure Report.Same {σ : Type} (r r' : Report σ) : Prop where
  scheduler : r'.scheduler = r.scheduler
  states : r'.states = r.states
  errors : r'.errors = r.errors
  timeline : r'.timeline = r.timeline

structure Report.Alike {σ : Type} (R : σ → σ → Prop) (r r' : Report σ) : Prop
    extends Report.Same r r' where
  shared : R r.shared r'.shared

theorem Report.Same.stateOf {σ : Type} {r r' : Report σ} (same : r.Same r') (h : Handle) :
    r'.stateOf h = r.stateOf h := by
  rw [Report.stateOf, Report.stateOf, same.scheduler, same.states]

theorem Report.Same.result {σ : Type} {r r' : Report σ} (same : r.Same r') :
    r'.result = r.result := by
  rw [Report.result, Report.result, same.errors]

namespace Course

variable {ρ σ ρ' σ' : Type} {P : ρ → ρ → Prop} {Q : σ → σ → Prop} {c c' : Course ρ σ}

/-- Both courses come to their end, or both break off for the same reason. -/
inductive Alike (P : ρ → ρ → Prop) (Q : σ → σ → Prop) : Course ρ σ → Course ρ σ → Prop
  | reported {r r' : ρ} (alike : P r r') : Alike P Q (.reported r) (.reported r')
  | timedOut {s s' : σ} (related : Q s s') : Alike P Q (.timedOut s) (.timedOut s')
  | stalled {s s' : σ} (related : Q s s') : Alike P Q (.stalled s) (.stalled s')
  | fault (f : Fault) : Alike P Q (.fault f) (.fault f)

theorem Alike.map {P' : ρ' → ρ' → Prop} {Q' : σ' → σ' → Prop} {f f' : ρ → ρ'} {g g' : σ → σ'}
    (alike : Alike P Q c c') (reports : ∀ r r', P r r' → P' (f r) (f' r'))
    (shared : ∀ s s', Q s s' → Q' (g s) (g' s')) : Alike P' Q' (c.map f g) (c'.map f' g') := by
  cases alike with
  | reported alike => exact .reported (reports _ _ alike)
  | timedOut related => exact .timedOut (shared _ _ related)
  | stalled related => exact .stalled (shared _ _ related)
  | fault f => exact .fault f

theorem Alike.symm (alike : Alike P Q c c') (reports : ∀ r r', P r r' → P r' r)
    (shared : ∀ s s', Q s s' → Q s' s) : Alike P Q c' c := by
  cases alike with
  | reported alike => exact .reported (reports _ _ alike)
  | timedOut related => exact .timedOut (shared _ _ related)
  | stalled related => exact .stalled (shared _ _ related)
  | fault f => exact .fault f

theorem Alike.trans {c'' : Course ρ σ} (alike : Alike P Q c c') (alike' : Alike P Q c' c'')
    (reports : ∀ r r' r'', P r r' → P r' r'' → P r r'')
    (shared : ∀ s s' s'', Q s s' → Q s' s'' → Q s s'') : Alike P Q c c'' := by
  cases alike with
  | reported first =>
    cases alike' with
    | reported second => exact .reported (reports _ _ _ first second)
  | timedOut first =>
    cases alike' with
    | timedOut second => exact .timedOut (shared _ _ _ first second)
  | stalled first =>
    cases alike' with
    | stalled second => exact .stalled (shared _ _ _ first second)
  | fault f => exact alike'

end Course

/-! ## Schedulers -/

variable {σ : Type} {R : σ → σ → Prop}

/-- The same job with another body. -/
inductive Job.Alike (R : σ → σ → Prop) (job : Job σ) : Job σ → Prop
  | mk {body : JobBody σ} (alike : Process.Alike R job.body body) : Alike R job { job with body }

namespace Scheduler

variable {s t : Scheduler σ} {F : RunSettings → RunSettings → Prop}

/-- The same jobs with other bodies, and maybe with other settings. -/
inductive Alike (R : σ → σ → Prop) (F : RunSettings → RunSettings → Prop) (s : Scheduler σ) :
    Scheduler σ → Prop
  | mk {bodies : List (JobBody σ)} {settings : RunSettings}
    (all : List.Forall₂ (Process.Alike R) s.bodies bodies) (set : F s.settings settings) :
    Alike R F s { s with bodies, settings }

theorem Alike.settings (alike : Alike R F s t) : F s.settings t.settings := by
  cases alike with
  | mk _ set => exact set

theorem Alike.size (alike : Alike R F s t) : t.size = s.size := by
  cases alike
  rfl

theorem Alike.enqueue (alike : Alike R F s t) {job job' : Job σ} (same : Job.Alike R job job') :
    (t.enqueue job').1 = (s.enqueue job).1 ∧ Alike R F (s.enqueue job).2 (t.enqueue job').2 := by
  cases alike with
  | mk all set =>
    cases same with
    | mk alike =>
      unfold Scheduler.enqueue
      simp only
      split
      · exact ⟨rfl, .mk all set⟩
      · split
        · exact ⟨rfl, .mk all set⟩
        · exact ⟨rfl, .mk (List.rel_append all (.cons alike .nil)) set⟩

theorem Alike.enqueueAll (alike : Alike R F s t) {jobs jobs' : List (Job σ)}
    (same : List.Forall₂ (Job.Alike R) jobs jobs') :
    Except.Both (· = ·) (fun r r' => r'.1 = r.1 ∧ Alike R F r.2 r'.2) (s.enqueueAll jobs)
      (t.enqueueAll jobs') := by
  induction same generalizing s t with
  | nil => exact .ok ⟨rfl, alike⟩
  | @cons job job' jobs jobs' like _ ih =>
    obtain ⟨answer, alike'⟩ := alike.enqueue like
    unfold Scheduler.enqueueAll
    revert answer alike'
    generalize s.enqueue job = r
    generalize t.enqueue job' = r'
    obtain ⟨answer, s'⟩ := r
    obtain ⟨answer', t'⟩ := r'
    rintro ⟨⟩ alike'
    cases answer with
    | error e => exact .error rfl
    | ok h =>
      simp only
      rcases (ih alike').cases with ⟨_, _, refused, refused', same⟩ | ⟨_, _, taken, taken', same⟩
      · rw [refused, refused']
        exact .error same
      · rw [taken, taken']
        exact .ok ⟨congrArg (h :: ·) same.1, same.2⟩

theorem Alike.start (alike : Alike R F s t) (c : Conditions σ) {S} {a b : σ} (related : R a b)
    (observe : Option (Nat → Snapshot → σ → σ))
    (watched : S (s.start c a).sampling (t.start { c with observe } b).sampling) :
    Machine.Alike R S (s.start c a) (t.start { c with observe } b) := by
  cases alike with
  | mk all =>
    refine .mk ?_ related watched
    exact List.rel_map (fun _ _ like => Slot.Alike.fresh like) all

/-- Schedulers of jobs that are alike run alike, whether their states are sampled at the same times
or those of the right one alone. -/
theorem Alike.run (alike : Alike R F s t) (c : Conditions σ) {a b : σ} (related : R a b)
    (patient : c.deadline = none) (observe : Option (Nat → Snapshot → σ → σ))
    (watched :
      Sampling.Alike R (s.start c a).sampling (t.start { c with observe } b).sampling ∨
      Sampling.Extra R (s.start c a).sampling (t.start { c with observe } b).sampling) :
    Course.Alike (Report.Alike R) R (s.run c a) (t.run { c with observe } b) := by
  have stops : Stop.Alike R (s.start c a).run (t.start { c with observe } b).run := by
    rcases watched with same | extra
    · exact (alike.start c related observe same).run
    · refine Machine.Shadows.run (.level (alike.start c related observe extra) ?_) patient
      rintro ⟨⟩
  have id' : t.id = s.id := by
    cases alike
    rfl
  unfold Scheduler.run
  generalize (s.start c a).run = stop, (t.start { c with observe } b).run = stop' at stops ⊢
  cases stops with
  | finished ends =>
    refine .reported ⟨⟨id', ?_, ?_, ends.timeline⟩, ends.shared⟩
    · exact congrArg Books.states ends.books
    · rw [report, report, ends.errors, ends.seen, ends.cancelled]
  | timedOut ends => exact .timedOut ends.shared
  | stalled ends => exact .stalled ends.shared
  | fault f => exact .fault f

end Scheduler

end KeyFlow
