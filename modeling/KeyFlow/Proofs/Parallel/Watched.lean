import KeyFlow.Parallel.Run
import KeyFlow.Proofs.Run.Emitters

/-!
Units of work and who is told of them. The bodies of the units write notes and read nothing, so
units that tell another emitter are run in the same way.
-/

namespace KeyFlow

variable {β : Type} {view : Sinks → β} {flow : String} {e e' : Emitter}
  {F : RunSettings → RunSettings → Prop}

namespace WorkUnit

theorem job_alike (same : e.Matches view flow e') (name label : String) (whole : Bool)
    (dependencies : List Handle) (body : TaskBody Unit) :
    Job.Alike (Sinks.Agree view) (job (e.hear flow) name label whole dependencies body)
      (job (e'.hear flow) name label whole dependencies body) := by
  refine .mk (Process.interpret_alike (fun own request s t agree => ?_) (fun _ ending => ?_) _ body)
  · cases request with
    | note n => exact ⟨rfl, rfl, same.note n s t agree⟩
    | provide key value =>
      simp only [TaskContext.answer]
      split <;> exact ⟨rfl, rfl, agree⟩
    | input | taskName => exact ⟨rfl, rfl, agree⟩
  · exact Process.change_alike (fun _ _ => Lifecycle.tellAll_agree same _) (.done _)

/-- The jobs of the elements of a slice or a map. -/
theorem elements_alike (same : e.Matches view flow e') (name : String) (items : List UnitBody)
    (size : Nat) :
    List.Forall₂ (Job.Alike (Sinks.Agree view))
      (items.mapIdx fun i body => job (e.hear flow) name s!"{name}[{i}]" false [] (body (size + i)))
      (items.mapIdx fun i body =>
        job (e'.hear flow) name s!"{name}[{i}]" false [] (body (size + i))) := by
  rw [List.mapIdx_eq_zipIdx_map, List.mapIdx_eq_zipIdx_map, List.forall₂_map_left_iff,
    List.forall₂_map_right_iff]
  exact List.forall₂_same.mpr fun _ _ => job_alike same ..

theorem enqueue_alike (same : e.Matches view flow e') {s t : Scheduler Sinks}
    (alike : Scheduler.Alike (Sinks.Agree view) F s t) (u : WorkUnit) :
    Except.Both (· = ·) (fun r r' => r'.1 = r.1 ∧ Scheduler.Alike (Sinks.Agree view) F r.2 r'.2)
      (u.enqueue (e.hear flow) s) (u.enqueue (e'.hear flow) t) := by
  cases u with
  | task name body =>
    unfold enqueue
    rw [alike.size]
    exact alike.enqueueAll (.cons (job_alike same ..) .nil)
  | fanOut name items finish =>
    have elements := elements_alike same name items s.size
    unfold enqueue
    simp only [alike.size]
    rcases (alike.enqueueAll elements).cases with
      ⟨_, _, refused, refused', rfl⟩ | ⟨⟨_, s₁⟩, ⟨handles, t₁⟩, taken, taken', rfl, alike₁⟩
    · rw [refused, refused']
      exact .error rfl
    · rw [taken, taken']
      cases finish with
      | none => exact .ok ⟨rfl, alike₁⟩
      | some body =>
        simp only [alike₁.size]
        rcases (alike₁.enqueueAll (.cons (job_alike same name s!"{name} (end)" false handles
          (body s₁.size)) .nil)).cases with
            ⟨_, _, refused, refused', rfl⟩ | ⟨⟨_, s₂⟩, ⟨last, t₂⟩, taken, taken', rfl, alike₂⟩
        · rw [refused, refused']
          exact .error rfl
        · rw [taken, taken']
          exact .ok ⟨rfl, alike₂⟩

theorem enqueueAll_alike (same : e.Matches view flow e') {s t : Scheduler Sinks}
    (alike : Scheduler.Alike (Sinks.Agree view) F s t) (us : List WorkUnit) :
    Except.Both (· = ·) (fun r r' => r'.1 = r.1 ∧ Scheduler.Alike (Sinks.Agree view) F r.2 r'.2)
      (enqueueAll (e.hear flow) s us) (enqueueAll (e'.hear flow) t us) := by
  induction us generalizing s t with
  | nil => exact .ok ⟨rfl, alike⟩
  | cons u us ih =>
    unfold enqueueAll
    rcases (enqueue_alike same alike u).cases with
      ⟨_, _, refused, refused', rfl⟩ | ⟨⟨_, s₁⟩, ⟨handles, t₁⟩, taken, taken', rfl, alike₁⟩
    · rw [refused, refused']
      exact .error rfl
    · rw [taken, taken']
      simp only
      rcases (ih alike₁).cases with
        ⟨_, _, refused, refused', rfl⟩ | ⟨⟨_, s₂⟩, ⟨rest, t₂⟩, taken, taken', rfl, alike₂⟩
      · rw [refused, refused']
        exact .error rfl
      · rw [taken, taken']
        exact .ok ⟨rfl, alike₂⟩

end WorkUnit

namespace Parallel

/-- The same units under another emitter, their states sampled with another period. -/
def watchedBy (p : Parallel) (e : Emitter) (flushMillis : Nat) : Parallel :=
  { p with emitter := e, settings := { p.settings with flushMillis } }

variable {p : Parallel} {flushMillis : Nat}

/-- Whoever cannot tell the emitters apart cannot tell the runs of the units apart. -/
theorem run_alike (same : p.emitter.Matches view p.name e)
    (inTime : Lifecycle.InTime p.emitter e p.settings { p.settings with flushMillis })
    (token : Token) (sinks : Sinks) :
    FlowCourse.Alike view (p.run token sinks) ((p.watchedBy e flushMillis).run token sinks) := by
  refine Lifecycle.around_alike same (fun s s' agree => ?_) rfl
  let opening := Happening.schedulerInit :: p.units.map fun u => .taskInit u.name
  have told := Lifecycle.tellAll_agree same opening agree
  have jobs : Except.Both (· = ·) (fun r r' => r'.1 = r.1 ∧
      Scheduler.Alike (Sinks.Agree view)
        (Lifecycle.InTime p.emitter e) r.2 r'.2) p.jobs (p.watchedBy e flushMillis).jobs :=
    WorkUnit.enqueueAll_alike same (.mk .nil inTime) p.units
  rcases jobs.cases with
    ⟨_, _, refused, refused', rfl⟩ | ⟨⟨_, q⟩, ⟨units, q'⟩, taken, taken', rfl, alike⟩
  · simp only [refused, refused']
    exact .reported ⟨rfl, .none, told⟩
  · simp only [taken, taken']
    have watched := Lifecycle.start_watched same alike.settings token id (fun _ => rfl)
      (fun _ _ keeps => keeps)
    refine (alike.run _ told rfl _ (watched _ _)).map (fun r r' like => ?_) fun _ _ => id
    have states : r'.stateOf = r.stateOf := funext like.toSame.stateOf
    refine ⟨?_, .some like.toSame, ?_⟩
    · simp only [like.errors]
      rfl
    · simp only [closing, states]
      exact Lifecycle.tellAll_agree same _ like.shared

end Parallel

end KeyFlow
