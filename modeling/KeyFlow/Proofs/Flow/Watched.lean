import KeyFlow.Flow.Run
import KeyFlow.Proofs.Run.Emitters

/-!
Flows and who is told of them. The jobs of a flow read the store and write in it; what they tell
goes to the sinks, which no job reads. So the jobs of a flow with another emitter are alike, and
their runs come to the same store.
-/

namespace KeyFlow

/-- The same store, and the same tasks have told their outcome; the sinks are the same in this
view. -/
structure FlowState.Agree {β : Type} (view : Sinks → β) (s s' : FlowState) : Prop where
  store : s'.store = s.store
  handled : s'.handled = s.handled
  sinks : s.sinks.Agree view s'.sinks

variable {β : Type} {view : Sinks → β} {flow : String} {e e' : Emitter}

namespace FlowState

theorem agree_onSinks (f f' : Sinks → Sinks)
    (keeps : ∀ s s' : Sinks, s.Agree view s' → (f s).Agree view (f' s')) (s s' : FlowState)
    (agree : s.Agree view s') : (s.onSinks f).Agree view (s'.onSinks f') :=
  ⟨agree.store, agree.handled, keeps _ _ agree.sinks⟩

theorem Agree.handle {s s' : FlowState} (agree : s.Agree view s') (task : Nat) :
    (s.handle task).Agree view (s'.handle task) where
  store := agree.store
  handled := congrArg (task :: ·) agree.handled
  sinks := agree.sinks

theorem Agree.put {s s' : FlowState} (agree : s.Agree view s') (pairs : List (Key × Held)) :
    (s'.put pairs).1 = (s.put pairs).1 ∧ (s.put pairs).2.Agree view (s'.put pairs).2 := by
  rw [FlowState.put, FlowState.put, agree.store]
  exact ⟨rfl, rfl, agree.handled, agree.sinks⟩

end FlowState

namespace FlowUnit

/-- Jobs that differ in the emitter that they tell. -/
abbrev Alike (view : Sinks → β) : JobBody FlowState → JobBody FlowState → Prop :=
  Process.Alike (FlowState.Agree view)

variable (u : FlowUnit) (same : e.Matches view flow e')

include same

theorem report_alike (events : List TaskEvent) {next next' : JobBody FlowState}
    (rest : Alike view next next') :
    Alike view (u.report (e.hear flow) events next) (u.report (e'.hear flow) events next') :=
  Process.change_alike
    (FlowState.agree_onSinks _ _ fun _ _ => Lifecycle.tellAll_agree same _) rest

theorem commit_alike (pairs : List (Key × Value)) (events refused : List TaskEvent) :
    Alike view (u.commit (e.hear flow) pairs events refused)
      (u.commit (e'.hear flow) pairs events refused) :=
  Process.attempt_alike (fun _ _ agree => agree.put _)
    (fun _ => u.report_alike same refused (.done _)) (u.report_alike same events (.done _))

theorem recover_alike (f : Failure) (values : List Value) (refused : List TaskEvent) :
    Alike view (u.recover (e.hear flow) f values refused)
      (u.recover (e'.hear flow) f values refused) :=
  u.commit_alike same _ _ _

theorem settle_alike (outcome : Except Failure (List (Key × Value))) :
    Alike view (u.settle (e.hear flow) outcome) (u.settle (e'.hear flow) outcome) := by
  cases outcome with
  | ok pairs => exact u.commit_alike same pairs _ _
  | error f =>
    unfold settle
    simp only
    split
    · exact u.recover_alike same f _ _
    · exact u.report_alike same _ (.done _)

/-- What a task is told of its flow does not hang on the sinks. -/
theorem answers_alike (context : TaskContext) (own : Staging) (request : Request)
    (s t : FlowState) (agree : s.Agree view t) :
    let answer := context.answer (fun (s : FlowState) k => s.store.value? k) FlowState.note own
    (answer request t).1 = (answer request s).1 ∧
      (answer request t).2.1 = (answer request s).2.1 ∧
      (answer request s).2.2.Agree view (answer request t).2.2 := by
  cases request with
  | note n =>
    exact ⟨rfl, rfl, agree.store, agree.handled, same.note n _ _ agree.sinks⟩
  | input key typed =>
    refine ⟨?_, rfl, agree⟩
    show context.read _ key typed = context.read _ key typed
    rw [agree.store]
  | provide key value =>
    simp only [TaskContext.answer]
    split <;> exact ⟨rfl, rfl, agree⟩
  | taskName => exact ⟨rfl, rfl, agree⟩

theorem runBody_alike : Alike view (u.runBody (e.hear flow)) (u.runBody (e'.hear flow)) :=
  Process.change_alike (fun _ _ agree => agree.handle u.index)
    (Process.interpret_alike (answers_alike same _)
      (fun staging ending => u.settle_alike same (u.taken staging ending)) _ _)

theorem follow_alike (v : Verdict) :
    Alike view (u.follow (e.hear flow) v) (u.follow (e'.hear flow) v) := by
  cases v with
  | run => exact u.runBody_alike same
  | skip => exact .done _
  | faulted f =>
    refine Process.change_alike (fun _ _ agree => agree.handle u.index) ?_
    split
    · exact u.recover_alike same f _ _
    · exact .done _

theorem taskBody_alike : Alike view (u.taskBody (e.hear flow)) (u.taskBody (e'.hear flow)) := by
  unfold taskBody
  split
  · exact u.runBody_alike same
  · refine Process.look_alike fun s t agree => ?_
    rw [agree.store]
    split
    · exact u.follow_alike same _
    · exact .done _

theorem conclude_alike (gate : Gate) (outcome : Except Failure Verdict) :
    Alike view (u.conclude (e.hear flow) gate outcome)
      (u.conclude (e'.hear flow) gate outcome) := by
  cases outcome with
  | ok v =>
    exact Process.attempt_alike (fun _ _ agree => agree.put _) (fun _ => .done _) (.done _)
  | error f => exact u.report_alike same _ (.done _)

theorem predicateBody_alike :
    Alike view (u.predicateBody (e.hear flow)) (u.predicateBody (e'.hear flow)) := by
  unfold predicateBody
  split
  · exact Process.interpret_alike (answers_alike same _)
      (fun _ ending => u.conclude_alike same _ (u.verdict ending)) _ _
  · exact .done _

end FlowUnit

namespace Flow

/-- The same flow under another emitter, its states sampled with another period. -/
def watchedBy (f : Flow) (e : Emitter) (flushMillis : Nat) : Flow :=
  { f with emitter := e, settings := { f.settings with flushMillis } }

variable {f : Flow} {flushMillis : Nat} {F : RunSettings → RunSettings → Prop}

theorem job?_alike (same : f.emitter.Matches view f.name e) (id : NodeId) :
    Option.Rel (Job.Alike (FlowState.Agree view)) (f.job? id)
      ((f.watchedBy e flushMillis).job? id) := by
  have plan : (f.watchedBy e flushMillis).plan = f.plan := rfl
  have unit (index : Nat) : (f.watchedBy e flushMillis).unit? index = f.unit? index := rfl
  unfold job?
  rw [plan]
  cases f.plan.graph.nodes[id]? with
  | none => exact .none
  | some node =>
    simp only [Option.bind_some, unit]
    cases node.kind with
    | task index =>
      simp only
      cases f.unit? index with
      | none => exact .none
      | some u => exact .some (.mk (u.taskBody_alike same))
    | predicate index =>
      simp only
      cases f.unit? index with
      | none => exact .none
      | some u => exact .some (.mk (u.predicateBody_alike same))

theorem enqueue_alike (same : f.emitter.Matches view f.name e) (ids : List NodeId)
    (handles : Handles) {s t : Scheduler FlowState}
    (alike : Scheduler.Alike (FlowState.Agree view) F s t) :
    Except.Both (· = ·)
      (fun r r' => r'.1 = r.1 ∧ Scheduler.Alike (FlowState.Agree view) F r.2 r'.2)
      (f.enqueue ids handles s) ((f.watchedBy e flushMillis).enqueue ids handles t) := by
  induction ids generalizing handles s t with
  | nil => exact .ok ⟨rfl, alike⟩
  | cons id ids ih =>
    have job : Option.Rel (Job.Alike (FlowState.Agree view)) (f.job? id)
      ((f.watchedBy e flushMillis).job? id) := job?_alike same id
    have plan : (f.watchedBy e flushMillis).plan = f.plan := rfl
    unfold enqueue
    rw [plan]
    generalize f.job? id = job, (f.watchedBy e flushMillis).job? id = job' at job ⊢
    cases job with
    | none => exact .error rfl
    | @some job job' like =>
      simp only
      generalize (f.plan.graph.dependencyNodes id).filterMap (handles.lookup ·) = dependencies
      have like' : Job.Alike (FlowState.Agree view) { job with dependencies }
          { job' with dependencies } := by
        cases like with
        | mk like => exact .mk like
      obtain ⟨answer, alike'⟩ := alike.enqueue like'
      revert answer alike'
      generalize s.enqueue { job with dependencies } = r
      generalize t.enqueue { job' with dependencies } = r'
      obtain ⟨answer, s'⟩ := r
      obtain ⟨answer', t'⟩ := r'
      rintro ⟨⟩ alike'
      cases answer with
      | error e => exact .error rfl
      | ok h => exact ih _ alike'

theorem jobs_alike (same : f.emitter.Matches view f.name e)
    (inTime : F f.settings { f.settings with flushMillis }) :
    Except.Both (· = ·)
      (fun r r' => r'.1 = r.1 ∧ Scheduler.Alike (FlowState.Agree view) F r.2 r'.2)
      f.jobs (f.watchedBy e flushMillis).jobs :=
  enqueue_alike same _ [] (.mk .nil inTime)

theorem closing_same (handles : Handles) {r r' : Report FlowState}
    (alike : r.Alike (FlowState.Agree view) r') :
    (f.watchedBy e flushMillis).closing handles r' = f.closing handles r := by
  have states : r'.stateOf = r.stateOf := funext alike.toSame.stateOf
  unfold closing
  rw [alike.shared.handled, states]
  rfl

theorem runJobs_alike (same : f.emitter.Matches view f.name e)
    (inTime : Lifecycle.InTime f.emitter e f.settings { f.settings with flushMillis })
    (token : Token) (store : Store Held) {sinks sinks' : Sinks} (agree : sinks.Agree view sinks') :
    FlowCourse.Alike view (f.runJobs token store sinks)
      ((f.watchedBy e flushMillis).runJobs token store sinks') := by
  let opening := (f.plan.graph.tasks.map fun t => Happening.taskInit t.name) ++ [.schedulerInit]
  have told := Lifecycle.tellAll_agree same opening agree
  have started : FlowState.Agree view ⟨store, [], Lifecycle.tellAll f.tell opening sinks⟩
      ⟨store, [], Lifecycle.tellAll (f.watchedBy e flushMillis).tell opening sinks'⟩ :=
    ⟨rfl, rfl, told⟩
  unfold runJobs
  rcases (jobs_alike same inTime).cases with
    ⟨setback, _, refused, refused', rfl⟩ | ⟨⟨_, s⟩, ⟨handles, t⟩, taken, taken', rfl, alike⟩
  · rw [refused, refused']
    cases setback with
    | refused e => exact .reported ⟨rfl, .none, told⟩
    | fault e => exact .fault e
  · rw [taken, taken']
    have watched := Lifecycle.start_watched same alike.settings token FlowState.onSinks
      (fun _ => rfl) FlowState.agree_onSinks
    refine (alike.run _ started rfl _ (watched _ _)).map (fun r r' like => ?_) fun _ _ =>
      FlowState.Agree.sinks
    refine ⟨?_, .some like.toSame, ?_⟩
    · simp only [like.toSame.result, like.shared.store]
      rfl
    · simp only [closing_same handles like]
      exact Lifecycle.tellAll_agree same _ like.shared.sinks

/-- Whoever cannot tell the emitters apart cannot tell the runs of the flow apart. -/
theorem run_alike (same : f.emitter.Matches view f.name e)
    (inTime : Lifecycle.InTime f.emitter e f.settings { f.settings with flushMillis })
    (inputs : List (Key × Value)) (token : Token) (sinks : Sinks) :
    FlowCourse.Alike view (f.run inputs token sinks)
      ((f.watchedBy e flushMillis).run inputs token sinks) := by
  have plan : (f.watchedBy e flushMillis).plan = f.plan := rfl
  refine Lifecycle.around_alike same (fun s s' agree => ?_) rfl
  rw [plan]
  cases Store.seeded f.plan inputs with
  | error refused => exact .reported ⟨rfl, .none, agree⟩
  | ok store => exact runJobs_alike same inTime token store agree

end Flow

end KeyFlow
