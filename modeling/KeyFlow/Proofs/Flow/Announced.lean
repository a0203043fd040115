import KeyFlow.Proofs.Flow.Reported
import KeyFlow.Proofs.Flow.Speech

/-!
What a flow tells in a run. Each task that is reached is reported once: by its own job, by the job
of its predicate together with the sweep at the end, or by the sweep alone. A task that is not
reached has no job, and only its predicate may have one that tells something.
-/

namespace KeyFlow

namespace Opened

variable {s : FlowSpec} {f : Flow} {inputs : List (Key × Value)}
  {start m last : Machine FlowState} {i job p : Nat} {u : FlowUnit} {gate : Gate}
  {rest : List Nat} {body : JobBody FlowState} {c : Conclusion}
  {ends : List (Nat × Conclusion)} {told : List (Option Nat × Happening)}

/-- A task has turns only after its predicate has succeeded. -/
theorem gate_succeeded (opened : Opened s f inputs start)
    (rests : Machine.Rests f.jobDeps start last ends) (found : f.unit? i = some u)
    (gated : u.task.gate = some gate) (placed : f.plan.enqueueOrder[job]? = some u.task.node)
    (place : f.plan.enqueueOrder[p]? = some gate.node) {a : Act}
    (came : u.cameTo start job = some a) :
    last.books.stateOf p = some .succeeded := by
  obtain ⟨⟨_, w⟩, replay, _⟩ := Option.map_eq_some_iff.mp came
  obtain ⟨first, mem⟩ : ∃ w, w ∈ start.turns job := by
    refine List.exists_mem_of_ne_nil _ fun noTurns => ?_
    rw [noTurns] at replay
    cases replay
  obtain ⟨m, rest, body, comes, _, polls⟩ := Machine.mem_turns mem
  obtain ⟨v, said, _⟩ := opened.verdict_of_polls found gated placed comes polls
  obtain ⟨n, node⟩ := opened.compiled.gate_of_unit found gated
  have output : gate.sentinel ∈ n.outputs := by
    rw [((opened.compiled.nodes_of_unit found).2 gate gated).outputs n node]
    exact List.mem_singleton_self _
  obtain ⟨m₀, comes₀, resting, rest₀, body₀, polls₀, ended, _⟩ :=
    opened.origin place node output comes (Store.get?_of_verdict? said)
  refine (rests.told.ended p .succeeded).mpr ⟨.returned .done, rests.endsWith_iff.mp ?_, rfl⟩
  exact ⟨m₀, rest₀, body₀, comes₀, resting, polls₀, ended⟩

/-- The job of a predicate reports its task just if something went wrong with it that nothing stands
in for. -/
theorem gate_reports (opened : Opened s f inputs start)
    (rests : Machine.Rests f.jobDeps start last ends)
    (spoken : Machine.Spoken f.tell FlowState.sinks (f.speech start) start last told)
    (found : f.unit? i = some u) (gated : u.task.gate = some gate)
    (place : f.plan.enqueueOrder[f.plan.enqueueOrder.idxOf gate.node]? = some gate.node) :
    (spokenBy (some (f.plan.enqueueOrder.idxOf gate.node)) told = [] ∧
        u.uncaught? start f.plan.enqueueOrder.idxOf = none) ∨
      ∃ f', spokenBy (some (f.plan.enqueueOrder.idxOf gate.node)) told =
          Lifecycle.ofTask u.task.name [f'.event] ∧
        u.uncaught? start f.plan.enqueueOrder.idxOf = some f' ∧
        last.books.stateOf (f.plan.enqueueOrder.idxOf gate.node) = some .failed := by
  obtain ⟨state, at_last, ⟨cause, rfl, _, unspent, checked⟩ | ⟨e, checked, spent, rfl⟩⟩ :=
    opened.gate_outcome rests found gated place
  · refine .inl ⟨spoken.silent _ unspent, ?_⟩
    rw [FlowUnit.uncaught?, gated, Option.bind_some, checked]
    exact ite_self _
  · have lines := spoken.ended _ spent
    rw [opened.speech_gate found gated place, FlowUnit.gateEvents, gated, Option.bind_some,
      checked] at lines
    simp only [Option.map_some, FlowUnit.ruling] at lines at_last
    have uncaught : u.uncaught? start f.plan.enqueueOrder.idxOf =
        if u.work.fallback.isSome then none else u.faultOf e := by
      rw [FlowUnit.uncaught?, gated, Option.bind_some, checked]
      rfl
    cases ruled : u.verdict e with
    | ok v =>
      rw [ruled] at lines
      refine .inl ⟨lines, ?_⟩
      rw [uncaught]
      split
      · rfl
      · rename_i bare
        refine Option.eq_none_iff_forall_ne_some.mpr fun f' fault => ?_
        rw [u.verdict_error_iff.mpr ⟨by simpa using bare, fault⟩] at ruled
        cases ruled
    | error f' =>
      rw [ruled] at lines at_last
      obtain ⟨bare, fault⟩ := u.verdict_error_iff.mp ruled
      refine .inr ⟨f', lines, ?_, at_last⟩
      rw [uncaught, bare]
      exact fault

/-- Where one job of a task speaks at most, the task is told what that one tells. -/
theorem spokenBy_task (belongs : f.taskOf? job = some i)
    (others : ∀ other, f.taskOf? other = some i → other ≠ job →
      spokenBy (some other) told = []) :
    spokenBy (some i) (told.map fun e => (e.1.bind f.taskOf?, e.2)) =
      spokenBy (some job) told := by
  have renamed : spokenBy ((some job).bind f.taskOf?)
      (told.map fun e => (e.1.bind f.taskOf?, e.2)) = spokenBy (some job) told := by
    refine spokenBy_renamed (fun who : Option Nat => who.bind f.taskOf?) ?_
    rintro (_ | other) same ne
    · rw [Option.bind_some, belongs] at same
      cases same
    · rw [Option.bind_some, Option.bind_some, belongs] at same
      exact others other same fun is => ne (congrArg some is)
  rw [Option.bind_some, belongs] at renamed
  exact renamed

/-- Where no job of a task speaks, nothing is told of it. -/
theorem spokenBy_nobody
    (silent : ∀ job, f.taskOf? job = some i → spokenBy (some job) told = []) :
    spokenBy (some i) (told.map fun e => (e.1.bind f.taskOf?, e.2)) = [] := by
  refine List.eq_nil_iff_forall_not_mem.mpr fun h mem => ?_
  obtain ⟨⟨who, h'⟩, said, same⟩ := List.mem_map.mp (mem_spokenBy.mp mem)
  obtain ⟨belongs, rfl⟩ := Prod.mk.inj same
  obtain ⟨job, rfl, belongs⟩ := Option.bind_eq_some_iff.mp belongs
  have heard := mem_spokenBy.mpr said
  rw [silent job belongs] at heard
  cases heard

/-- A node without a job has no turns. -/
theorem turns_of_unscheduled (opened : Opened s f inputs start) {id : NodeId}
    (unscheduled : id ∉ f.plan.enqueueOrder) : start.turns (f.plan.enqueueOrder.idxOf id) = [] := by
  refine List.eq_nil_iff_forall_not_mem.mpr fun w mem => ?_
  obtain ⟨m, rest, body, comes, _, polls⟩ := Machine.mem_turns mem
  obtain ⟨_, placed⟩ := opened.node_of_polls comes polls
  rw [List.idxOf_eq_length unscheduled, List.getElem?_eq_none (Nat.le_refl _)] at placed
  cases placed

/-- Of a task whose job was not started, or that has none, its predicate may have told something. -/
theorem told_of_unstarted (opened : Opened s f inputs start)
    (rests : Machine.Rests f.jobDeps start last ends)
    (spoken : Machine.Spoken f.tell FlowState.sinks (f.speech start) start last told)
    (found : f.unit? i = some u)
    (unspent : ∀ job : Nat, f.plan.enqueueOrder[job]? = some u.task.node →
      last.slots[job]? ≠ some .spent) :
    spokenBy (some i) (told.map fun e => (e.1.bind f.taskOf?, e.2)) = Lifecycle.ofTask u.task.name
      ((u.uncaught? start f.plan.enqueueOrder.idxOf).toList.map Failure.event) := by
  have silent (job : Nat) (placed : f.plan.enqueueOrder[job]? = some u.task.node) :
      spokenBy (some job) told = [] := spoken.silent job (unspent job placed)
  cases gated : u.task.gate with
  | none =>
    rw [FlowUnit.uncaught?_ungated gated, spokenBy_nobody fun job belongs => ?_]
    · rfl
    · rcases (opened.taskOf?_eq_some_iff found).mp belongs with placed | ⟨gate, gated', _⟩
      · exact silent job placed
      · rw [gated] at gated'
        cases gated'
  | some gate =>
    have others (job : Nat) (belongs : f.taskOf? job = some i)
        (other : f.plan.enqueueOrder[job]? ≠ some gate.node) : spokenBy (some job) told = [] := by
      rcases (opened.taskOf?_eq_some_iff found).mp belongs with placed | ⟨gate', gated', placed⟩
      · exact silent job placed
      · rw [gated, Option.some.injEq] at gated'
        exact absurd (gated' ▸ placed) other
    by_cases scheduled : gate.node ∈ f.plan.enqueueOrder
    · have place := List.getElem?_idxOf scheduled
      rw [spokenBy_task ((opened.taskOf?_eq_some_iff found).mpr (.inr ⟨gate, gated, place⟩))
        fun job belongs ne => others job belongs fun placed => ne ?_]
      · rcases opened.gate_reports rests spoken found gated place with
          ⟨lines, uncaught⟩ | ⟨f', lines, uncaught, _⟩
        · rw [lines, uncaught]
          rfl
        · rw [lines, uncaught]
          rfl
      · exact (opened.compiled.idxOf_at placed).symm
    · have uncaught : u.uncaught? start f.plan.enqueueOrder.idxOf = none := by
        rw [FlowUnit.uncaught?, gated, Option.bind_some, FlowUnit.checkedTo,
          opened.turns_of_unscheduled scheduled]
        cases u.work.check <;> exact ite_self _
      rw [uncaught, spokenBy_nobody fun job belongs => others job belongs fun placed => ?_]
      · rfl
      · exact scheduled (List.mem_of_getElem? placed)

/-- Of a task whose job has ended, only that job tells. -/
theorem told_of_ended (opened : Opened s f inputs start)
    (rests : Machine.Rests f.jobDeps start last ends)
    (spoken : Machine.Spoken f.tell FlowState.sinks (f.speech start) start last told)
    (found : f.unit? i = some u) (reached : f.plan.graph.Reached u.task.node) {a : Act}
    (came : u.cameTo start (f.plan.enqueueOrder.idxOf u.task.node) = some a)
    (spent : last.slots[f.plan.enqueueOrder.idxOf u.task.node]? = some .spent) :
    spokenBy (some i) (told.map fun e => (e.1.bind f.taskOf?, e.2)) =
        Lifecycle.ofTask u.task.name (u.finale a).events ∧
      u.uncaught? start f.plan.enqueueOrder.idxOf = none := by
  have placed := opened.compiled.place_of_node reached
  have quiet (gate : Gate) (gated : u.task.gate = some gate) :
      spokenBy (some (f.plan.enqueueOrder.idxOf gate.node)) told = [] ∧
        u.uncaught? start f.plan.enqueueOrder.idxOf = none := by
    have place := opened.compiled.place_of_node
      (.dependency reached (opened.compiled.gate_dependency found gated))
    rcases opened.gate_reports rests spoken found gated place with quiet | ⟨_, _, _, failed⟩
    · exact quiet
    · rw [opened.gate_succeeded rests found gated placed place came] at failed
      cases failed
  constructor
  · have own := (opened.taskOf?_eq_some_iff found).mpr (.inl placed)
    rw [spokenBy_task own fun job belongs ne => ?_, spoken.ended _ spent,
      opened.speech_task found placed, FlowUnit.taskEvents, came]
    rcases (opened.taskOf?_eq_some_iff found).mp belongs with there | ⟨gate, gated, there⟩
    · exact absurd (opened.compiled.idxOf_at there).symm ne
    · rw [← opened.compiled.idxOf_at there]
      exact (quiet gate gated).1
  · cases gated : u.task.gate with
    | none => exact FlowUnit.uncaught?_ungated gated
    | some gate => exact (quiet gate gated).2

/-- What the jobs of a task and the sweep at the end tell of it. -/
theorem reports (opened : Opened s f inputs start) (run : start.run = .finished last)
    (rests : Machine.Rests f.jobDeps start last ends)
    (spoken : Machine.Spoken f.tell FlowState.sinks (f.speech start) start last told)
    (found : f.unit? i = some u) (reached : f.plan.graph.Reached u.task.node) :
    ∃ state events, last.books.stateOf (f.plan.enqueueOrder.idxOf u.task.node) = some state ∧
      u.Reports (u.cameTo start (f.plan.enqueueOrder.idxOf u.task.node))
        (u.uncaught? start f.plan.enqueueOrder.idxOf) events state ∧
      spokenBy (some i) (told.map fun e => (e.1.bind f.taskOf?, e.2)) ++
        (u.swept last.shared.handled state).toList = Lifecycle.ofTask u.task.name events := by
  have placed := opened.compiled.place_of_node reached
  have index := (opened.compiled.kinds_of_unit found).1
  obtain ⟨state, at_last, ⟨cause, rfl, other, unspent, came⟩ | ⟨a, came, sound, is, spent, _⟩⟩ :=
    opened.task_outcome run rests found placed
  · have swept : u.swept last.shared.handled (.skipped cause) =
        some (.task u.task.name (.skipped cause)) := by
      refine if_neg fun mem => ?_
      have begun := (rests.told.fresh _ _ at_last).mpr
        (opened.handles_of_handled found placed run (index ▸ mem)).1
      cases cause <;> first | exact other rfl | cases begun
    rw [opened.told_of_unstarted rests spoken found fun job there => by
      rwa [← opened.compiled.idxOf_at there]]
    cases uncaught : u.uncaught? start f.plan.enqueueOrder.idxOf with
    | none =>
      exact ⟨_, [.skipped cause], at_last, .skipped cause (.inl came) rfl, by rw [swept]; rfl⟩
    | some f' =>
      exact ⟨_, [f'.event, .skipped cause], at_last, .uncaught f' cause came rfl,
        by rw [swept]; rfl⟩
  · obtain ⟨lines, ruled⟩ := opened.told_of_ended rests spoken found reached came spent
    have finishes := (opened.compiled.formed_of_unit found).finale_finishes sound
    rw [lines]
    generalize u.finale a = fin at finishes is
    subst is
    have swept {state : JobState} {lines : List Happening} (unskipped : state.skipCause = none) :
        lines ++ (u.swept last.shared.handled state).toList = lines := by
      rw [u.swept_of_unskipped unskipped]
      exact List.append_nil lines
    cases finishes with
    | declined is =>
      subst is
      have swept : u.swept last.shared.handled (.skipped .declined) =
          some (.task u.task.name (.skipped .declined)) :=
        if_neg fun mem => (opened.handles_of_handled found placed run (index ▸ mem)).2 _ came
      exact ⟨_, [.skipped .declined], at_last, .skipped .declined (.inr ⟨came, rfl⟩) ruled,
        congrArg Option.toList swept⟩
    | succeeded asked fulfils =>
      exact ⟨_, _, at_last, .succeeded a asked came fulfils ruled, swept rfl⟩
    | recovered f' values fault fallback =>
      exact ⟨_, _, at_last, .recovered a f' came fault (by rw [fallback]; rfl) ruled, swept rfl⟩
    | failed f' fault fallback =>
      exact ⟨_, _, at_last, .failed a f' came fault fallback ruled, swept rfl⟩

/-- Every job that tells something belongs to a task. -/
theorem task_of_told (opened : Opened s f inputs start)
    (spoken : Machine.Spoken f.tell FlowState.sinks (f.speech start) start last told)
    {h : Happening} (mem : (some job, h) ∈ told) :
    ∃ i < s.tasks.length, f.taskOf? job = some i := by
  have said := spoken.mem_speech mem
  rw [Flow.speech] at said
  cases placed : f.plan.enqueueOrder[job]? with
  | none =>
    rw [placed] at said
    cases said
  | some id =>
    obtain ⟨i, u, found, is⟩ := opened.compiled.unit_at placed
    obtain ⟨_, _, declared, _⟩ := opened.compiled.of_unit found
    refine ⟨i, (List.getElem?_eq_some_iff.mp declared).1,
      (opened.taskOf?_eq_some_iff found).mpr ?_⟩
    rcases is with rfl | ⟨gate, gated, rfl⟩
    · exact .inl placed
    · exact .inr ⟨gate, gated, placed⟩

end Opened

namespace Flow

variable {f : Flow}

/-- What the sweep at the end tells, and of which task. -/
def sweep (f : Flow) (handles : Handles) (r : Report FlowState) : List (Option Nat × Happening) :=
  f.plan.graph.tasks.zipIdx.flatMap fun p =>
    (if p.2 ∈ r.shared.handled then none
      else (((handles.lookup p.1.node).bind r.stateOf).bind (·.skipCause)).map fun cause =>
        Happening.task p.1.name (.skipped cause)).toList.map (some p.2, ·)

theorem sweep_closing (handles : Handles) (r : Report FlowState) :
    (f.sweep handles r).map (·.2) = f.closing handles r := by
  rw [sweep, closing, List.map_flatMap, List.filterMap_filter, List.filterMap_eq_flatMap_toList]
  refine List.flatMap_congr fun p _ => ?_
  rw [List.map_map, Function.comp_def, List.map_id']
  by_cases mem : p.2 ∈ r.shared.handled <;> simp [mem]

/-- The sweep tells of tasks only. -/
theorem mem_sweep {s : FlowSpec} (compiled : Compiled s f) {handles : Handles}
    {r : Report FlowState} {who : Option Nat} {h : Happening} (mem : (who, h) ∈ f.sweep handles r) :
    ∃ i < s.tasks.length, who = some i := by
  obtain ⟨⟨t, i⟩, listed, said⟩ := List.mem_flatMap.mp mem
  obtain ⟨_, _, is⟩ := List.mem_map.mp said
  cases is
  have placed := List.mem_zipIdx_iff_getElem?.mp listed
  rw [compiled.graph, s.spec.graph_tasks, FlowSpec.spec, List.getElem?_map] at placed
  obtain ⟨_, declared, _⟩ := Option.map_eq_some_iff.mp placed
  obtain ⟨_, there, _⟩ := Option.map_eq_some_iff.mp declared
  exact ⟨i, (List.getElem?_eq_some_iff.mp there).1, rfl⟩

/-- What the sweep tells of a task. -/
theorem sweep_of_unit {i : Nat} {u : FlowUnit} (handles : Handles) (r : Report FlowState)
    (found : f.unit? i = some u) : spokenBy (some i) (f.sweep handles r) =
      (if i ∈ r.shared.handled then none
        else (((handles.lookup u.task.node).bind r.stateOf).bind (·.skipCause)).map fun cause =>
          Happening.task u.task.name (.skipped cause)).toList := by
  have task : f.plan.graph.tasks[i]? = some u.task := by
    rw [unit?] at found
    split at found
    · cases found
    · rename_i task placed
      obtain ⟨work, _, rfl⟩ := Option.map_eq_some_iff.mp found
      exact placed
  rw [sweep, spokenBy_zipIdx, if_pos (Nat.zero_le i), Nat.sub_zero, task, Option.map_some,
    Option.getD_some]

/-- The sweep tells of a task that it was skipped, if nothing else was told of it. -/
theorem sweep_unit {s : FlowSpec} {i j : Nat} {u : FlowUnit} {handles : Handles}
    {q : Scheduler FlowState} {last : Machine FlowState} {state : JobState}
    (compiled : Compiled s f) (found : f.unit? i = some u)
    (listed : handles.lookup u.task.node = some ⟨q.id, j⟩)
    (at_last : last.books.stateOf j = some state) :
    spokenBy (some i) (f.sweep handles (Scheduler.report q.id last)) =
      (u.swept last.shared.handled state).toList := by
  have stateIs : (Scheduler.report q.id last).stateOf ⟨q.id, j⟩ = some state :=
    (Scheduler.report_stateOf ..).trans at_last
  rw [f.sweep_of_unit handles _ found, listed, Option.bind_some, stateIs, Option.bind_some,
    FlowUnit.swept, (compiled.kinds_of_unit found).1]
  rfl

/-- The sweep passes over a task without a job. -/
theorem sweep_unscheduled {i : Nat} {u : FlowUnit} {handles : Handles} (r : Report FlowState)
    (found : f.unit? i = some u) (unlisted : handles.lookup u.task.node = none) :
    spokenBy (some i) (f.sweep handles r) = [] := by
  rw [f.sweep_of_unit handles r found, unlisted, Option.bind_none, Option.bind_none,
    Option.map_none, ite_self]
  rfl

/-- What is told of a task between the beginning and the end of the run of jobs that starts here,
and what became of its job. -/
structure Tells (f : Flow) (start : Machine FlowState) (handles : Handles)
    (r : Report FlowState) (u : FlowUnit) (lines : List Happening) : Prop where
  ran : f.plan.graph.Reached u.task.node → ∃ job state events,
    handles.lookup u.task.node = some ⟨r.scheduler, job⟩ ∧ r.states[job]? = some state ∧
    u.Reports (u.cameTo start job) (u.uncaught? start f.plan.enqueueOrder.idxOf) events state ∧
    lines = Lifecycle.ofTask u.task.name events
  idle : ¬ f.plan.graph.Reached u.task.node → handles.lookup u.task.node = none ∧
    lines = Lifecycle.ofTask u.task.name
      ((u.uncaught? start f.plan.enqueueOrder.idxOf).toList.map Failure.event)

end Flow

/-- What a run of jobs of the flow tells between its beginning and its end. -/
theorem Opened.told_of_run {s : FlowSpec} {f : Flow} {inputs : List (Key × Value)}
    {q : Scheduler FlowState} {token : Token} {store : Store Held} {sinks : Sinks}
    {last : Machine FlowState} {handles : Flow.Handles}
    (opened : Opened s f inputs (f.start q token store sinks))
    (entered : f.Enqueued f.plan.enqueueOrder.length handles q)
    (run : (f.start q token store sinks).run = .finished last) :
    ∃ told : List (Option Nat × Happening),
      Sinks.Heard f.tell sinks (.flowInit :: told.map (·.2))
        (Lifecycle.tellAll f.tell (f.closing handles (Scheduler.report q.id last))
          last.shared.sinks) ∧
      (∀ h, (none, h) ∈ told → h.IsAside) ∧
      (∀ i h, (some i, h) ∈ told → i < s.tasks.length) ∧
      ∀ i u, f.unit? i = some u → f.Tells (f.start q token store sinks) handles
        (Scheduler.report q.id last) u (spokenBy (some i) told) := by
  obtain ⟨ends, rests⟩ := opened.kept.rests opened.told run
  have samples : (f.start q token store sinks).TellsSamples f.tell FlowState.sinks := by
    intro sampling on clock snapshot s
    rw [opened.samples sampling on]
    rfl
  have unspent (job : Nat) : (f.start q token store sinks).slots[job]? ≠ some .spent := by
    rw [opened.slots]
    cases f.jobBodies[job]? <;> nofun
  obtain ⟨told, spoken⟩ :=
    Machine.spoken_of_run opened.kept run samples opened.speaks unspent
  let opening : List Happening :=
    (f.plan.graph.tasks.map fun t => .taskInit t.name) ++ [.schedulerInit]
  have before : ∀ h ∈ opening, h.IsAside := by
    intro h mem
    rcases List.mem_append.mp mem with init | scheduler
    · obtain ⟨_, _, rfl⟩ := List.mem_map.mp init
      trivial
    · rw [List.mem_singleton.mp scheduler]
      trivial
  have grouped : Grouped f.taskOf? s.tasks.length told
      (f.sweep handles (Scheduler.report q.id last)) :=
    ⟨fun _ _ => opened.task_of_told spoken, fun _ => spoken.aside,
      fun _ _ => Flow.mem_sweep opened.compiled⟩
  refine ⟨gathered opening f.taskOf? told (f.sweep handles (Scheduler.report q.id last)), ?_,
    fun h => grouped.isAside before, fun i h => grouped.lt, fun i u found => ?_⟩
  · have first : Sinks.Heard f.tell sinks (.flowInit :: opening)
        (f.start q token store sinks).shared.sinks := .all f.prelude
    have whole := (first.trans spoken.heard).trans
      (.all (f.closing handles (Scheduler.report q.id last)))
    rw [gathered_lines, f.sweep_closing]
    exact whole
  · rw [spokenBy_gathered]
    refine ⟨fun reached => ?_, fun unreached => ?_⟩
    · obtain ⟨state, events, at_last, reports, lines⟩ :=
        opened.reports run rests spoken found reached
      have listed := entered.lookup_node (opened.compiled.place_of_node reached)
      refine ⟨_, state, events, listed, (Books.getElem?_states ..).trans at_last, reports, ?_⟩
      rw [Flow.sweep_unit opened.compiled found listed at_last]
      exact lines
    · have unlisted : handles.lookup u.task.node = none :=
        Option.not_isSome_iff_eq_none.mp
          fun listed => unreached ((opened.compiled.hasHandle_iff entered).mp listed)
      refine ⟨unlisted, ?_⟩
      rw [Flow.sweep_unscheduled _ found unlisted, List.append_nil]
      exact opened.told_of_unstarted rests spoken found fun job placed =>
        absurd (opened.compiled.mem_enqueueOrder.mp (List.mem_of_getElem? placed)) unreached

end KeyFlow
