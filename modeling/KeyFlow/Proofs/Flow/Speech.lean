import KeyFlow.Proofs.Flow.Outcome

/-!
What the jobs of a flow tell. The job of a task tells how its act went, unless the task declined,
and says that it will before anything comes of it; the job of a predicate tells what went wrong with
its check, if nothing stands in for that.
-/

namespace KeyFlow

namespace FlowUnit

variable (u : FlowUnit)

/-- What went wrong with the check of the predicate. -/
def faultOf : Ending Bool → Option Failure
  | .returned _ => none
  | .failed e => some (.error e.toTrouble)
  | .panicked p => some (.ofPanic u.task.name p)

/-- What went wrong with the predicate of the task in the run that starts here, if no values stand
in; the jobs of the nodes have these places. -/
def uncaught? (start : Machine FlowState) (place : NodeId → Nat) : Option Failure :=
  if u.work.fallback.isSome then none
  else u.task.gate.bind fun gate => (u.checkedTo gate start (place gate.node)).bind u.faultOf

/-- What is told of a task, and the state in which its job ends. -/
inductive Reports (act : Option Act) (uncaught : Option Failure) : List TaskEvent → JobState → Prop
  | succeeded (a : Act) (asked : List Request) (came : act = some a) (fulfils : u.Fulfils asked a)
    (ruled : uncaught = none) : Reports act uncaught [.success, .done] .succeeded
  | recovered (a : Act) (f : Failure) (came : act = some a) (fault : u.fault? a = some f)
    (stands : u.work.fallback.isSome = true) (ruled : uncaught = none) :
    Reports act uncaught [f.recovered, .done] .succeeded
  | failed (a : Act) (f : Failure) (came : act = some a) (fault : u.fault? a = some f)
    (bare : u.work.fallback = none) (ruled : uncaught = none) :
    Reports act uncaught [f.event, .done] .failed
  | skipped (cause : SkipCause) (came : act = none ∨ act = some .declined ∧ cause = .declined)
    (ruled : uncaught = none) : Reports act uncaught [.skipped cause] (.skipped cause)
  | uncaught (f : Failure) (cause : SkipCause) (came : act = none) (is : uncaught = some f) :
    Reports act uncaught [f.event, .skipped cause] (.skipped cause)

/-- What the job of the task tells in the run that starts here, once it has ended. -/
def taskEvents (start : Machine FlowState) (job : Nat) : List TaskEvent :=
  match u.cameTo start job with
  | some a => (u.finale a).events
  | none => []

/-- What the job of the predicate tells in the run that starts here, once it has ended. -/
def gateEvents (start : Machine FlowState) (job : Nat) : List TaskEvent :=
  match u.task.gate.bind fun gate => (u.checkedTo gate start job).map (u.ruling gate) with
  | some fin => fin.events
  | none => []

/-- What the sweep at the end tells of a task whose job has this state. -/
def swept (handled : List Nat) (state : JobState) :
    Option Happening :=
  if u.index ∈ handled then none
  else state.skipCause.map fun cause => .task u.task.name (.skipped cause)

variable {u}

/-- Where there is no predicate, nothing goes wrong with it. -/
theorem uncaught?_ungated {start : Machine FlowState} {place : NodeId → Nat}
    (ungated : u.task.gate = none) : u.uncaught? start place = none := by
  rw [uncaught?, ungated]
  exact ite_self _

theorem swept_of_unskipped {handled : List Nat} {state : JobState}
    (unskipped : state.skipCause = none) : u.swept handled state = none := by
  rw [swept, unskipped]
  exact ite_self _

theorem verdict_error_iff {e : Ending Bool} {f : Failure} :
    u.verdict e = .error f ↔ u.work.fallback.isSome = false ∧ u.faultOf e = some f := by
  cases e with
  | returned b => cases b <;> exact ⟨nofun, fun no => nomatch no.2⟩
  | failed | panicked =>
    rw [verdict, faultOf]
    cases u.work.fallback.isSome <;> simp

end FlowUnit

/-- What the job at this place tells in the run that starts here, once it has ended. -/
def Flow.speech (f : Flow) (start : Machine FlowState) (job : Nat) : List Happening :=
  match f.plan.enqueueOrder[job]?.bind fun id => f.plan.graph.nodes[id]?.map Node.kind with
  | some (.task i) =>
    (f.unit? i).toList.flatMap fun u => Lifecycle.ofTask u.task.name (u.taskEvents start job)
  | some (.predicate i) =>
    (f.unit? i).toList.flatMap fun u => Lifecycle.ofTask u.task.name (u.gateEvents start job)
  | none => []

/-- The task that the job at this place belongs to. -/
def Flow.taskOf? (f : Flow) (job : Nat) : Option Nat :=
  (f.plan.enqueueOrder[job]?.bind fun id => f.plan.graph.nodes[id]?.map Node.kind).map fun
    | .task i | .predicate i => i

namespace Opened

variable {s : FlowSpec} {f : Flow} {inputs : List (Key × Value)}
  {start m last : Machine FlowState} {i job p : Nat} {u : FlowUnit} {gate : Gate}
  {rest : List Nat} {body : JobBody FlowState} {c : Conclusion}
  {ends : List (Nat × Conclusion)} {told : List (Option Nat × Happening)}

theorem speech_task (opened : Opened s f inputs start) (found : f.unit? i = some u)
    (placed : f.plan.enqueueOrder[job]? = some u.task.node) :
    f.speech start job = Lifecycle.ofTask u.task.name (u.taskEvents start job) := by
  rw [Flow.speech, placed, Option.bind_some, (opened.compiled.kinds_of_unit found).2.1]
  simp only [found, Option.toList_some, List.flatMap_singleton]

theorem speech_gate (opened : Opened s f inputs start) (found : f.unit? i = some u)
    (gated : u.task.gate = some gate) (placed : f.plan.enqueueOrder[job]? = some gate.node) :
    f.speech start job = Lifecycle.ofTask u.task.name (u.gateEvents start job) := by
  rw [Flow.speech, placed, Option.bind_some, (opened.compiled.kinds_of_unit found).2.2 gate gated]
  simp only [found, Option.toList_some, List.flatMap_singleton]

/-- A job belongs to a task just if its node is that of the task or of its predicate. -/
theorem taskOf?_eq_some_iff (opened : Opened s f inputs start) (found : f.unit? i = some u) :
    f.taskOf? job = some i ↔ f.plan.enqueueOrder[job]? = some u.task.node ∨
      ∃ gate, u.task.gate = some gate ∧ f.plan.enqueueOrder[job]? = some gate.node := by
  obtain ⟨_, task, predicate⟩ := opened.compiled.kinds_of_unit found
  constructor
  · intro belongs
    rw [Flow.taskOf?, Option.map_eq_some_iff] at belongs
    obtain ⟨kind, is, same⟩ := belongs
    obtain ⟨id, placed, is⟩ := Option.bind_eq_some_iff.mp is
    obtain ⟨i', u', found', rfl | ⟨gate, gated, rfl⟩⟩ := opened.compiled.unit_at placed
    · rw [(opened.compiled.kinds_of_unit found').2.1] at is
      cases is
      cases same
      rw [found, Option.some.injEq] at found'
      exact .inl (found' ▸ placed)
    · rw [(opened.compiled.kinds_of_unit found').2.2 gate gated] at is
      cases is
      cases same
      rw [found, Option.some.injEq] at found'
      subst found'
      exact .inr ⟨gate, gated, placed⟩
  · rintro (placed | ⟨gate, gated, placed⟩)
    · rw [Flow.taskOf?, placed, Option.bind_some, task]
      rfl
    · rw [Flow.taskOf?, placed, Option.bind_some, predicate gate gated]
      rfl

/-- Each job tells its events when it ends, and nothing before. -/
theorem speaks (opened : Opened s f inputs start) (job : Nat) :
    Machine.Speaks f.tell FlowState.sinks start job (f.speech start job) := by
  constructor
  · intro m rest body comes resting polls unended
    obtain ⟨_, _, works | ⟨_, _, _, c, _, _, ended⟩⟩ := opened.poll_cases comes resting polls
    · exact works.sinks
    · exact absurd ended (unended c)
  · intro m rest body c comes resting polls ended
    obtain ⟨id, placed⟩ := opened.node_of_polls comes polls
    obtain ⟨i, u, found, rfl | ⟨gate, gated, rfl⟩⟩ := opened.compiled.unit_at placed
    · obtain ⟨a, came, _, done⟩ := opened.task_closes found placed comes resting polls ended
      rw [opened.speech_task found placed, FlowUnit.taskEvents, came]
      exact done.told
    · obtain ⟨e, came, done⟩ := opened.gate_closes found gated placed comes resting polls ended
      rw [opened.speech_gate found gated placed, FlowUnit.gateEvents, gated, Option.bind_some, came]
      exact done.told

/-! ## Tasks that tell their outcome by themselves -/

/-- Only the job of a task makes the task tell its outcome by itself. -/
theorem handled_of_poll (opened : Opened s f inputs start) (found : f.unit? i = some u)
    (placed : f.plan.enqueueOrder[job]? = some u.task.node) (comes : Machine.Comes start m)
    (resting : m.busy = false) (polls : m.Polls p rest body) (other : p ≠ job)
    (mem : i ∈ (body.advance (m.world p)).2.shared.handled) : i ∈ m.shared.handled := by
  obtain ⟨mine, own, turn⟩ := opened.poll_cases comes resting polls
  have works : mine i ∨ i ∈ m.shared.handled := by
    rcases turn with works | ⟨_, _, _, _, works, closes, _⟩
    · exact works.handled i mem
    · exact works.handled i (closes.handled ▸ mem)
  refine works.resolve_left fun is => other ?_
  obtain ⟨u', found', placed'⟩ := own i is
  rw [found, Option.some.injEq] at found'
  subst found'
  rw [← opened.compiled.idxOf_at placed, opened.compiled.idxOf_at placed']

/-- Samples of the scheduler's state leave alone which tasks tell their outcome by themselves. -/
theorem handled_of_quiet (opened : Opened s f inputs start) (reached : start.Reaches m)
    {m' : Machine FlowState} (quiet : Machine.Quiet m m') :
    m'.shared.handled = m.shared.handled := by
  cases quiet with
  | sampled =>
    unfold Machine.sample
    split
    · rename_i sampling on
      obtain ⟨first, on', same⟩ := reached.observe sampling on
      simp only [same, opened.samples first on']
      rfl
    · rfl
  | woken job =>
    unfold Machine.wake
    split <;> rfl
  | _ => rfl

/-- If a task is told to be one that tells its outcome by itself, it is. -/
theorem handles_of_poll (opened : Opened s f inputs start) (found : f.unit? i = some u)
    (placed : f.plan.enqueueOrder[job]? = some u.task.node) (comes : Machine.Comes start m)
    (resting : m.busy = false) (polls : m.Polls job rest body)
    (mem : i ∈ (body.advance (m.world job)).2.shared.handled) {a : Act}
    (came : u.cameTo start job = some a) : a.Handles ∨ i ∈ m.shared.handled := by
  obtain ⟨⟨a, w⟩, replay, rfl⟩ := Option.map_eq_some_iff.mp came
  have ran {q : Process FlowState Act} (only : ∀ a, q.MayEnd a → ∃ asked e, a = .ran asked e)
      (may : q.MayEnd a) : a.Handles := by
    obtain ⟨asked, e, rfl⟩ := only a may
    trivial
  cases (opened.opens_task found placed).played opened.kept comes resting polls with
  | paused q acting next w' turn pause unended advance come =>
    obtain ⟨t, ws, endsSo⟩ := come _ replay
    have may := Process.replay_mayEnd endsSo
    rcases acting.phase with rfl | only
    · exact .inl (ran (fun a may => u.act_paused turn t may) may)
    · exact .inl (ran only ((Process.turn_mayEnd q _).2 next w' turn t a may))
  | ended q acting a' w₁ w' c turn last advance come =>
    rw [replay, Option.some.injEq, Prod.mk.injEq] at come
    obtain ⟨rfl, rfl⟩ := come
    rcases acting.phase with rfl | only
    · have first := u.act_came turn
      cases a with
      | unruled =>
        obtain ⟨gate, gated, absent⟩ := first
        obtain ⟨v, there, _⟩ := opened.verdict_of_polls found gated placed comes polls
        exact absurd (absent.symm.trans there) nofun
      | declined =>
        refine .inr ?_
        cases last
        rw [advance, first] at mem
        exact mem
      | faulted | ran => exact .inl trivial
    · exact .inl (ran only ((Process.turn_mayEnd q _).1 a w turn))

/-- If this task is one that tells its outcome by itself at this moment, its job was started, and
comes to something that is told. -/
def Handling (u : FlowUnit) (start m : Machine FlowState) (i job : Nat) : Prop :=
  i ∈ m.shared.handled → (∀ body, m.slots[job]? ≠ some (.fresh body)) ∧
    ∀ a, u.cameTo start job = some a → a.Handles

theorem handling_quiet (opened : Opened s f inputs start) (reached : start.Reaches m)
    {m' : Machine FlowState} (quiet : Machine.Quiet m m') (handling : Handling u start m i job) :
    Handling u start m' i job := by
  intro mem
  obtain ⟨unfresh, handles⟩ := handling (opened.handled_of_quiet reached quiet ▸ mem)
  refine ⟨fun body fresh => ?_, handles⟩
  rcases quiet.slot job with same | ⟨old, new, _, after, moved, _⟩
  · exact unfresh body (same ▸ fresh)
  · rw [fresh, Option.some.injEq] at after
    subst after
    cases moved

theorem handling_polled (opened : Opened s f inputs start) (found : f.unit? i = some u)
    (placed : f.plan.enqueueOrder[job]? = some u.task.node) (comes : Machine.Comes start m)
    (resting : m.busy = false) (polls : m.Polls p rest body)
    (handling : Handling u start m i job) : Handling u start (m.ranOn p rest body) i job := by
  intro mem
  rw [(m.ranOn_rest p rest body).2] at mem
  by_cases same : p = job
  · subst same
    refine ⟨Machine.not_fresh_of_set polls.slot (m.ranOn_slots p rest body) ?_, fun a came => ?_⟩
    · cases (body.advance (m.world p)).1 <;> nofun
    · rcases opened.handles_of_poll found placed comes resting polls mem came with handles | handled
      · exact handles
      · exact (handling handled).2 a came
  · rw [Machine.slot_set_ne (m.ranOn_slots p rest body) (Ne.symm same)]
    exact handling (opened.handled_of_poll found placed comes resting polls same mem)

/-- A task that tells its outcome by itself was started, and does so. -/
theorem handles_of_handled (opened : Opened s f inputs start) (found : f.unit? i = some u)
    (placed : f.plan.enqueueOrder[job]? = some u.task.node) (run : start.run = .finished last)
    (mem : i ∈ last.shared.handled) : (∀ body, last.slots[job]? ≠ some (.fresh body)) ∧
      ∀ a, u.cameTo start job = some a → a.Handles := by
  refine opened.kept.run_keeps (fun _ _ reached quiet => opened.handling_quiet reached quiet)
    (fun _ _ _ _ => opened.handling_polled found placed) run (fun no => ?_) mem
  rw [opened.handled] at no
  cases no

end Opened

end KeyFlow
