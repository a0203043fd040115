import KeyFlow.Flow.Builder
import KeyFlow.Proofs.Flow.Complete
import KeyFlow.Proofs.Graph.Repeats

/-!
What comes out of a builder. Every call keeps its two lists in step, so that a builder stands for
the description of a flow, and building it is building what it stands for. The table of a flow that
is built has a place for every task, and a descriptor finds its own task at its ordinal.
-/

namespace KeyFlow

/-- What the compiler finds wrong with a description. -/
def Spec.objections (s : Spec) : List Issue :=
  match s.compile with
  | .error (.issues found) => found
  | _ => []

namespace WorkTable

/-- One more task adds its running part and what is wrong with it. -/
theorem add_parts (table : WorkTable) (t : FlowTask) : table.add (t.location, t.parts) =
    ⟨table.works ++ t.work?.toList, table.issues ++ t.issues⟩ := by
  obtain ⟨name, location, signature, body, predicate, fallback, invoke⟩ := t
  rcases predicate with _ | ⟨placed, params, _ | check⟩ <;> cases body <;>
    simp [add, FlowTask.parts, FlowTask.work?, FlowTask.issues]

theorem fill (table : WorkTable) (ts : List FlowTask) :
    (ts.map fun t => (t.location, t.parts)).foldl add table =
      ⟨table.works ++ ts.filterMap FlowTask.work?, table.issues ++ ts.flatMap FlowTask.issues⟩ := by
  induction ts generalizing table with
  | nil => simp
  | cons t ts ih =>
    rw [List.map_cons, List.foldl_cons, add_parts, ih, List.append_assoc, List.append_assoc,
      List.flatMap_cons]
    cases works : t.work? with
    | none => rw [List.filterMap_cons_none works]; rfl
    | some w => rw [List.filterMap_cons_some works]; rfl

end WorkTable

namespace FlowBuilder

def Call.task? : Call → Option FlowTask
  | .task t => some t
  | _ => none

def Call.input? : Call → Option Declared
  | .input k location => some ⟨k, location⟩
  | _ => none

def Call.output? : Call → Option Declared
  | .output k location => some ⟨k, location⟩
  | _ => none

/-- The tasks of some calls, in the order in which they were registered. -/
def registered (calls : List Call) : List FlowTask := calls.filterMap Call.task?

/-- Where every call adds what it brings at the end, the calls together add it in their order. -/
theorem foldl_collects {β : Type} (g : FlowBuilder → List β) (brings : Call → Option β)
    (step : ∀ b c, g (after b c) = g b ++ (brings c).toList) (b : FlowBuilder)
    (calls : List Call) : g (calls.foldl after b) = g b ++ calls.filterMap brings := by
  induction calls generalizing b with
  | nil => exact (List.append_nil _).symm
  | cons c calls ih =>
    rw [List.foldl_cons, ih, step, List.append_assoc]
    cases brought : brings c with
    | none => rw [List.filterMap_cons_none brought]; rfl
    | some x => rw [List.filterMap_cons_some brought]; rfl

theorem of_inputs (name : String) (location : Location) (calls : List Call) :
    (of name location calls).spec.inputs = calls.filterMap Call.input? := by
  have step (b : FlowBuilder) (c : Call) :
      (after b c).spec.inputs = b.spec.inputs ++ c.input?.toList := by
    cases c <;> simp [after, Call.input?]
  exact foldl_collects (·.spec.inputs) Call.input? step (start name location) calls

theorem of_outputs (name : String) (location : Location) (calls : List Call) :
    (of name location calls).spec.outputs = calls.filterMap Call.output? := by
  have step (b : FlowBuilder) (c : Call) :
      (after b c).spec.outputs = b.spec.outputs ++ c.output?.toList := by
    cases c <;> simp [after, Call.output?]
  exact foldl_collects (·.spec.outputs) Call.output? step (start name location) calls

theorem of_titled (name : String) (location : Location) (calls : List Call) :
    (of name location calls).spec.name = name ∧
      (of name location calls).spec.location = location := by
  refine List.foldlRecOn (motive := fun b => b.spec.name = name ∧ b.spec.location = location)
    calls after (b := start name location) ⟨rfl, rfl⟩ fun b titled c _ => ?_
  cases c <;> exact titled

/-- The two lists of a builder are those of the same tasks. -/
structure InStep (b : FlowBuilder) (tasks : List FlowTask) : Prop where
  decls : b.spec.tasks = tasks.map FlowTask.decl
  parts : b.tasks = tasks.map fun t => (t.location, t.parts)

/-- What a builder with these tasks stands for. -/
def describe (b : FlowBuilder) (tasks : List FlowTask) : FlowSpec where
  name := b.spec.name
  location := b.spec.location
  inputs := b.spec.inputs
  outputs := b.spec.outputs
  tasks := tasks
  settings := b.settings
  emitter := b.emitter

variable {b : FlowBuilder} {tasks : List FlowTask} {f : Flow}

theorem of_inStep (name : String) (location : Location) (calls : List Call) :
    (of name location calls).InStep (registered calls) := by
  have decls (b : FlowBuilder) (c : Call) :
      (after b c).spec.tasks = b.spec.tasks ++ (c.task?.map FlowTask.decl).toList := by
    cases c <;> simp [after, Call.task?]
  have parts (b : FlowBuilder) (c : Call) : (after b c).tasks =
      b.tasks ++ (c.task?.map fun t => (t.location, t.parts)).toList := by
    cases c <;> simp [after, Call.task?]
  constructor <;> rw [registered, List.map_filterMap]
  · exact foldl_collects (·.spec.tasks) _ decls (start name location) calls
  · exact foldl_collects (·.tasks) _ parts (start name location) calls

theorem InStep.spec (inStep : b.InStep tasks) : (b.describe tasks).spec = b.spec := by
  show Spec.mk _ _ _ _ (tasks.map FlowTask.decl) = b.spec
  rw [← inStep.decls]
  rfl

theorem InStep.table (inStep : b.InStep tasks) :
    b.table = ⟨tasks.filterMap FlowTask.work?, (b.describe tasks).issues⟩ := by
  rw [FlowBuilder.table, inStep.parts, WorkTable.fill]
  rfl

/-- A builder builds what it stands for. -/
theorem InStep.build (inStep : b.InStep tasks) : b.build = (b.describe tasks).build := by
  rw [FlowBuilder.build, FlowSpec.build, inStep.spec, inStep.table]
  rcases b.spec.compile with (found | f) | plan
  · rfl
  · rfl
  · cases (b.describe tasks).issues <;> rfl

/-- The calls that make a description. -/
def callsFor (s : FlowSpec) : List Call :=
  s.inputs.map (fun d => .input d.key d.location) ++
    s.outputs.map (fun d => .output d.key d.location) ++ s.tasks.map .task ++
    [.config s.settings, .emitter s.emitter]

/-- A description is built by the calls that make it. -/
theorem build_callsFor (s : FlowSpec) : (of s.name s.location (callsFor s)).build = s.build := by
  have inStep := of_inStep s.name s.location (callsFor s)
  obtain ⟨name, location⟩ := of_titled s.name s.location (callsFor s)
  have inputs := of_inputs s.name s.location (callsFor s)
  have outputs := of_outputs s.name s.location (callsFor s)
  have settings : (of s.name s.location (callsFor s)).settings = s.settings ∧
      (of s.name s.location (callsFor s)).emitter = s.emitter := by
    rw [of, callsFor, List.foldl_append]
    exact ⟨rfl, rfl⟩
  have tasks : registered (callsFor s) = s.tasks := by
    simp [registered, callsFor, Call.task?, Function.comp_def]
  rw [inStep.build, describe, name, location, inputs, outputs, settings.1, settings.2, tasks]
  simp [callsFor, Call.input?, Call.output?, Function.comp_def, List.filterMap_cons]

theorem InStep.build_eq_ok_iff (inStep : b.InStep tasks) : b.build = .ok f ↔
    ∃ p, b.spec.compile = .ok p ∧ (b.describe tasks).issues = [] ∧
      f = ⟨p, tasks.filterMap FlowTask.work?, b.settings, b.emitter⟩ := by
  rw [FlowBuilder.build, inStep.table]
  rcases b.spec.compile with (found | fault) | p
  · simp
  · simp
  · cases (b.describe tasks).issues <;> simp [eq_comm]

theorem describe_issues_eq_nil_iff : (b.describe tasks).issues = [] ↔
    b.settings.continueOnError = false ∧ ∀ t ∈ tasks, t.body.isSome = true ∧
      ∀ p, t.predicate = some p → p.check.isSome = true := by
  rw [FlowSpec.issues, List.append_eq_nil_iff, List.flatMap_eq_nil_iff]
  refine and_congr ?_ (forall₂_congr fun t _ => t.issues_eq_nil_iff)
  show (if b.settings.continueOnError then _ else _) = [] ↔ _
  cases b.settings.continueOnError <;> simp

theorem build_faults_iff : (∃ x, b.build = .error (.fault x)) ↔ ∃ i, b.spec.Repeats i := by
  rw [← Spec.compile_faults_iff]
  refine exists_congr fun x => ?_
  rw [FlowBuilder.build]
  rcases b.spec.compile with (found | fault) | p
  · simp
  · simp
  · simp only [reduceCtorEq, iff_false]
    split <;> simp

/-- Nothing that is wrong is left out. -/
theorem InStep.build_refused (inStep : b.InStep tasks) (once : ∀ i, ¬ b.spec.Repeats i)
    (refused : ¬ ∃ f, b.build = .ok f) :
    b.build = .error (.issues (b.spec.objections ++ (b.describe tasks).issues)) := by
  rcases compiled : b.spec.compile with (found | x) | p
  · rw [FlowBuilder.build, Spec.objections, compiled, inStep.table]
  · obtain ⟨i, repeats⟩ := Spec.compile_faults_iff.mp ⟨x, compiled⟩
    exact absurd repeats (once i)
  · have found : (b.describe tasks).issues ≠ [] := fun fine =>
      refused ⟨_, inStep.build_eq_ok_iff.mpr ⟨p, compiled, fine, rfl⟩⟩
    rw [FlowBuilder.build, Spec.objections, compiled, inStep.table]
    exact if_neg (by simpa using found)

/-- A flow that is built has a place for every task in its table. -/
theorem InStep.served (inStep : b.InStep tasks) (built : b.build = .ok f) {i : Nat} {d : Task}
    (placed : f.plan.graph.tasks[i]? = some d) :
    ∃ t w, tasks[i]? = some t ∧ d = Draft.taskOf d.node i t.decl ∧
      f.works[i]? = some w ∧ w.Fits t d := by
  obtain ⟨p, compiled, fine, rfl⟩ := inStep.build_eq_ok_iff.mp built
  obtain ⟨sourced, _, _, rfl⟩ := (b.spec.compile_eq_ok_iff p).mp compiled
  rw [Spec.plan, Spec.graph_tasks, inStep.decls, List.getElem?_map, Option.map_map,
    Option.map_eq_some_iff] at placed
  obtain ⟨t, task, rfl⟩ := placed
  have listed : t.decl ∈ b.spec.tasks :=
    inStep.decls ▸ List.mem_map_of_mem (List.mem_of_getElem? task)
  rw [FlowSpec.issues, List.append_eq_nil_iff, List.flatMap_eq_nil_iff] at fine
  have complete : ∀ t ∈ tasks, t.issues = [] := fine.2
  obtain ⟨w, work, fits⟩ := FlowTask.work_fits (sourced.tasks _ listed)
    (complete t (List.mem_of_getElem? task)) (b.spec.place i) i
  refine ⟨t, w, task, rfl, ?_, fits⟩
  show (tasks.filterMap FlowTask.work?)[i]? = some w
  rw [FlowTask.works_at complete, task]
  exact work

/-- A builder builds a flow just if the compiler accepts its description, a failure is to stop the
flow, every task has a body and every predicate a check. If no task repeats a key that it provides,
it says of any other flow all that is wrong: what the compiler finds, then the option, then what is
missing in the tasks as they were registered. In the table of a flow that is built each descriptor
finds at its ordinal the running part of the task that it describes, and that fits it. -/
theorem build_accepts_runnable (name : String) (location : Location) (calls : List Call) :
    let b := of name location calls
    let tasks := registered calls
    ((∃ f, b.build = .ok f) ↔
      (∃ p, b.spec.compile = .ok p) ∧ b.settings.continueOnError = false ∧
        ∀ t ∈ tasks, t.body.isSome = true ∧ ∀ p, t.predicate = some p → p.check.isSome = true) ∧
    ((∃ x, b.build = .error (.fault x)) ↔ ∃ i, b.spec.Repeats i) ∧
    ((∀ i, ¬ b.spec.Repeats i) → (¬ ∃ f, b.build = .ok f) →
      b.build = .error (.issues (b.spec.objections ++
        (if b.settings.continueOnError then [⟨b.spec.location, .flowContinuesOnError⟩] else []) ++
        tasks.flatMap FlowTask.issues))) ∧
    ∀ f, b.build = .ok f →
      b.spec.compile = .ok f.plan ∧ f.settings = b.settings ∧ f.emitter = b.emitter ∧
      f.plan.graph.tasks.length = tasks.length ∧
      ∀ i d, f.plan.graph.tasks[i]? = some d → ∃ t w, tasks[i]? = some t ∧
        d = Draft.taskOf d.node i t.decl ∧ f.works[d.ordinal]? = some w ∧
        f.unit? i = some ⟨i, d, w⟩ ∧ w.Fits t d := by
  intro b tasks
  have inStep : b.InStep tasks := of_inStep name location calls
  refine ⟨?_, build_faults_iff, fun once refused => ?_, fun f built => ?_⟩
  · simp only [inStep.build_eq_ok_iff, describe_issues_eq_nil_iff]
    constructor
    · rintro ⟨_, p, compiled, fine, _⟩
      exact ⟨⟨p, compiled⟩, fine⟩
    · rintro ⟨⟨p, compiled⟩, fine⟩
      exact ⟨_, p, compiled, fine, rfl⟩
  · rw [inStep.build_refused once refused, List.append_assoc]
    rfl
  · obtain ⟨p, compiled, _, rfl⟩ := inStep.build_eq_ok_iff.mp built
    refine ⟨compiled, rfl, rfl, ?_, fun i d placed => ?_⟩
    · obtain ⟨_, _, _, rfl⟩ := (b.spec.compile_eq_ok_iff p).mp compiled
      rw [Spec.plan, Spec.graph_tasks_length, inStep.decls, List.length_map]
    · obtain ⟨t, w, task, is, work, fits⟩ := inStep.served built placed
      have ordinal : d.ordinal = i := congrArg Task.ordinal is
      refine ⟨t, w, task, is, ordinal.symm ▸ work, ?_, fits⟩
      rw [Flow.unit?, placed]
      show Option.map _ _ = _
      rw [ordinal, work]
      rfl

/-- The calls that make the gated flow, and then one that sets whether it goes on after failures. -/
def gatedCalls (continueOnError : Bool) : List Call :=
  [.input (.named "in") ⟨"flow", 2, 1⟩, .output (.named "out") ⟨"flow", 3, 1⟩] ++
    FlowSpec.gated.tasks.map .task ++ [.config { continueOnError }, .concurrency 1]

/-- The gated flow is built; it is refused if it is to go on after failures. -/
theorem build_accepts_runnable_gated :
    (∃ f d w, (of "gated" ⟨"flow", 1, 1⟩ (gatedCalls false)).build = .ok f ∧
      f.unit? 0 = some ⟨0, d, w⟩ ∧ w.check.isSome = true ∧ w.fallback.isSome = true) ∧
    (of "gated" ⟨"flow", 1, 1⟩ (gatedCalls true)).build =
      .error (.issues [⟨⟨"flow", 1, 1⟩, .flowContinuesOnError⟩]) := by
  have compiled : Spec.gatedSpec.compile = .ok Spec.gatedSpec.plan :=
    Spec.compile_eq_plan_iff.mpr ⟨Spec.gatedSpec_wellFormed, rfl⟩
  obtain ⟨accepts, _, _, serves⟩ :=
    build_accepts_runnable "gated" ⟨"flow", 1, 1⟩ (gatedCalls false)
  obtain ⟨accepts', _, refuses, _⟩ :=
    build_accepts_runnable "gated" ⟨"flow", 1, 1⟩ (gatedCalls true)
  constructor
  · obtain ⟨f, built⟩ := accepts.mpr ⟨⟨_, compiled⟩, rfl,
      List.forall_mem_singleton.mpr ⟨rfl, fun p is => Option.some.inj is ▸ rfl⟩⟩
    obtain ⟨_, _, _, length, units⟩ := serves f built
    obtain ⟨t, w, task, is, _, unit, fits⟩ :=
      units 0 _ (List.getElem?_eq_getElem (length ▸ Nat.one_pos))
    cases Option.some.inj task
    refine ⟨f, _, w, built, unit, ?_, ?_⟩
    · rw [fits.gated, is]
      rfl
    · rw [fits.stands, is]
      rfl
  · refine (refuses (fun i repeats => ?_) fun ok => nomatch (accepts'.mp ok).2.1).trans ?_
    · obtain ⟨x, failed⟩ := Spec.compile_faults_iff.mpr ⟨i, repeats⟩
      cases compiled.symm.trans failed
    · have objections : Spec.gatedSpec.objections = [] := by rw [Spec.objections, compiled]
      show Except.error (Rejection.issues (Spec.gatedSpec.objections ++ _ ++ _)) = _
      rw [objections]
      rfl

/-- The calls that make a flow with one task, which lists its only output twice. -/
def repeatingCalls : List Call :=
  [.output (.named "out") ⟨"flow", 2, 1⟩,
    .task {
      name := "work"
      location := ⟨"flow", 3, 1⟩
      signature := { results := [.named "out", .named "out"] }
      body := some (.done (.returned ())) }]

/-- Nothing is missing in the task, and no list of errors comes out either. -/
theorem repeating_build_faults :
    (registered repeatingCalls).flatMap FlowTask.issues = [] ∧
      (∀ t ∈ registered repeatingCalls, t.decl.WellDeclared) ∧
      (of "repeating" ⟨"flow", 1, 1⟩ repeatingCalls).build = .error (.fault (.missingNode 0)) := by
  refine ⟨rfl, List.forall_mem_singleton.mpr ?_, rfl⟩
  exact ⟨by constructor <;> decide, by decide, nofun, nofun⟩

end FlowBuilder

end KeyFlow
