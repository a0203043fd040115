import KeyFlow.Proofs.Flow.Acts
import KeyFlow.Proofs.Flow.Opening
import KeyFlow.Proofs.Flow.Ready

/-!
The jobs of a flow in a run. When a job closes, the slots of its outputs are free, and a task finds
the verdict of its predicate; so every job keeps its word.
-/

namespace KeyFlow

namespace Machine

variable {α : Type} {start m : Machine FlowState} {deps : List (List Nat)} {job : Nat}
  {kind : Process FlowState α → Prop} {p : Process FlowState α} {k : α → JobBody FlowState}
  {tell : Happening → Sinks → Sinks} {task : String} {mine : Nat → Prop} {fin : α → Finale}
  {rest : List Nat} {body : JobBody FlowState}

theorem Opens.of_finale (slot : start.slots[job]? = some (.fresh (Process.andThen k p)))
    (is : kind p) (keeps : ∀ (p : Process FlowState α) w next w', kind p →
      p.turn w = (.inr next, w') → ∀ t, kind (next t))
    (of : ∀ a, (fin a).Of tell task (k a)) : Opens kind p k start job where
  slot := slot
  is := is
  keeps := keeps
  prompt := fun a w => by
    obtain ⟨c, s', turn, _⟩ := of a w
    exact ⟨c, _, turn⟩

/-- In its turn a job writes nothing but notes, or it closes. -/
theorem Opens.poll_cases (opens : Opens kind p k start job) (kept : Kept deps start)
    (within : ∀ q, kind q → q.Within (FlowState.Works tell mine))
    (of : ∀ a, (fin a).Of tell task (k a)) (comes : Comes start m) (resting : m.busy = false)
    (polls : m.Polls job rest body) :
    ((∀ c, (body.advance (m.world job)).1 ≠ .ended c) ∧
        FlowState.Works tell mine m.shared (body.advance (m.world job)).2.shared) ∨
      ∃ q a w c, kind q ∧ q.turn (m.world job) = (.inl a, w) ∧
        p.replay (start.turns job) = some (a, w) ∧
        (body.advance (m.world job)).1 = .ended c ∧ FlowState.Works tell mine m.shared w.shared ∧
        (fin a).Closes tell task w.shared c (body.advance (m.world job)).2.shared := by
  have works (q : Process FlowState α) (is : kind q) :
      FlowState.Works tell mine m.shared (q.turn (m.world job)).2.shared :=
    (Process.within_turn .refl (fun _ _ _ => .trans) (within q is) (m.world job)).1
  cases opens.played kept comes resting polls with
  | paused q is next w turn pause unended advance come =>
    have worked := works q is
    rw [turn] at worked
    rw [advance]
    exact .inl ⟨unended, worked⟩
  | ended q is a w w' c turn last advance come =>
    have worked := works q is
    rw [turn] at worked
    obtain ⟨c', s', turn', closes⟩ := of a w
    rw [last] at turn'
    cases turn'
    rw [advance]
    exact .inr ⟨q, a, w, c, is, turn, come, rfl, worked, closes⟩

end Machine

/-- What is left of the first part of a task's job. -/
structure FlowUnit.Acting (u : FlowUnit) (tell : Happening → Sinks → Sinks)
    (q : Process FlowState Act) : Prop where
  within : q.Within (FlowState.Works tell (· = u.index))
  /-- A job that has paused is in its body. -/
  phase : q = u.act ∨ ∀ a, q.MayEnd a → ∃ asked e, a = .ran asked e

theorem FlowUnit.Acting.keeps {u : FlowUnit} {tell : Happening → Sinks → Sinks}
    (q : Process FlowState Act) (w : World FlowState) (next : Nat → Process FlowState Act)
    (w' : World FlowState) (acting : u.Acting tell q) (paused : q.turn w = (.inr next, w'))
    (t : Nat) : u.Acting tell (next t) := by
  refine ⟨(Process.within_turn .refl (fun _ _ _ => .trans) acting.within w).2 next w' paused t,
    .inr fun a may => ?_⟩
  rcases acting.phase with rfl | ran
  · exact u.act_paused paused t may
  · exact ran a ((Process.turn_mayEnd q w).2 next w' paused t a may)

/-- A task does not come to this in a flow that was built. -/
def FlowUnit.Sound (u : FlowUnit) : Act → Prop
  | .unruled => False
  | .faulted _ => u.work.fallback.isSome = true
  | .declined | .ran .. => True

/-- A run of the flow on these inputs starts here. -/
structure Opened (s : FlowSpec) (f : Flow) (inputs : List (Key × Value))
    (start : Machine FlowState) : Prop where
  compiled : Compiled s f
  kept : Machine.Kept f.jobDeps start
  told : Machine.Told start start []
  delivering : start.Delivering f.Delivers f.Owns
  slots : ∀ job : Nat, start.slots[job]? = f.jobBodies[job]?.map .fresh
  seeded : Store.seeded f.plan inputs = .ok start.shared.store
  samples : ∀ sampling, start.sampling = some sampling → ∀ clock snapshot s,
    sampling.observe clock snapshot s = s.onSinks (f.tell (.state clock snapshot))
  handled : start.shared.handled = []

namespace Compiled

variable {s : FlowSpec} {f : Flow} {i : Nat} {u : FlowUnit} {gate : Gate}

theorem gate_dependency (compiled : Compiled s f) (found : f.unit? i = some u)
    (gated : u.task.gate = some gate) : gate.node ∈ f.plan.graph.dependencyNodes u.task.node := by
  obtain ⟨task, predicate⟩ := compiled.nodes_of_unit found
  obtain ⟨n, node⟩ := compiled.gate_of_unit found gated
  have output : gate.sentinel ∈ n.outputs := by
    rw [(predicate gate gated).outputs n node]
    exact List.mem_singleton_self _
  refine Graph.mem_dependencyNodes.mpr ⟨_, task.verdict gate gated, ?_⟩
  rw [compiled.graph, compiled.sourced.providerOf, ← compiled.nodes]
  exact ⟨n, node, output⟩

/-- The start of a run on inputs that the flow takes. -/
theorem opened (compiled : Compiled s f) {inputs : List (Key × Value)} {q : Scheduler FlowState}
    (fresh : Scheduler.Unstarted f.jobDeps q) (bodies : q.bodies = f.jobBodies) {store : Store Held}
    (seeded : Store.seeded f.plan inputs = .ok store) (token : Token) (sinks : Sinks) :
    Opened s f inputs (f.opening q token { store, sinks }) where
  compiled := compiled
  kept := fresh.kept _ _
  told := fresh.told _ _
  delivering := compiled.opening_delivering bodies seeded token
  slots := fun job => by
    rw [← bodies]
    exact List.getElem?_map ..
  seeded := seeded
  samples := by
    intro sampling on clock snapshot s
    rw [Scheduler.observe_start on]
    rfl
  handled := rfl

end Compiled

namespace Opened

variable {s : FlowSpec} {f : Flow} {inputs : List (Key × Value)} {start m m' : Machine FlowState}
  {i job : Nat} {u : FlowUnit} {gate : Gate} {check : TaskBody Bool} {rest : List Nat}
  {body : JobBody FlowState} {c : Conclusion} {id : NodeId} {n : Node} {k : Key} {held : Held}

theorem slot_at (opened : Opened s f inputs start) (placed : f.plan.enqueueOrder[job]? = some id)
    {body : JobBody FlowState} (is : (f.job? id).map Job.body = some body) :
    start.slots[job]? = some (.fresh body) := by
  rw [opened.slots, opened.compiled.jobBodies_at, placed, Option.bind_some, is]
  rfl

/-- The job of a task opens with its act. -/
theorem opens_task (opened : Opened s f inputs start) (found : f.unit? i = some u)
    (placed : f.plan.enqueueOrder[job]? = some u.task.node) :
    Machine.Opens (u.Acting f.tell) u.act (u.finish f.tell) start job := by
  refine .of_finale ?_ ⟨u.act_within rfl, .inl rfl⟩ FlowUnit.Acting.keeps u.finish_of
  rw [← u.taskBody_eq]
  exact opened.slot_at placed (opened.compiled.nodes_of_unit found).1.body

/-- The job of a predicate opens with its check. -/
theorem opens_gate (opened : Opened s f inputs start) (found : f.unit? i = some u)
    (gated : u.task.gate = some gate) (checked : u.work.check = some check)
    (placed : f.plan.enqueueOrder[job]? = some gate.node) :
    Machine.Opens (Process.Within (FlowState.Works f.tell fun _ => False)) (u.checking gate check)
      (fun a => u.conclude f.tell gate (u.verdict a.2)) start job := by
  refine .of_finale ?_ u.checking_within ?_ fun a => u.conclude_of a.2
  · rw [← u.predicateBody_eq gated checked]
    exact opened.slot_at placed ((opened.compiled.nodes_of_unit found).2 gate gated).body
  · intro q w next w' within paused t
    exact (Process.within_turn .refl (fun _ _ _ => .trans) within w).2 next w' paused t

/-- Every job that has a turn is that of a node. -/
theorem node_of_polls (opened : Opened s f inputs start) (comes : Machine.Comes start m)
    (polls : m.Polls job rest body) : ∃ id, f.plan.enqueueOrder[job]? = some id := by
  obtain ⟨_, slot⟩ := polls.slot_at_start comes
  rw [opened.slots, opened.compiled.jobBodies_at] at slot
  cases placed : f.plan.enqueueOrder[job]? with
  | none =>
    rw [placed] at slot
    cases slot
  | some id => exact ⟨id, rfl⟩

/-- A job that has its turn writes nothing but notes, or it closes; and only the job of a task makes
its task tell its outcome by itself. -/
theorem poll_cases (opened : Opened s f inputs start) (comes : Machine.Comes start m)
    (resting : m.busy = false) (polls : m.Polls job rest body) :
    ∃ mine : Nat → Prop,
      (∀ i, mine i → ∃ u, f.unit? i = some u ∧ f.plan.enqueueOrder[job]? = some u.task.node) ∧
      (FlowState.Works f.tell mine m.shared (body.advance (m.world job)).2.shared ∨
        ∃ s fin task c, FlowState.Works f.tell mine m.shared s ∧
          Finale.Closes fin f.tell task s c (body.advance (m.world job)).2.shared ∧
          (body.advance (m.world job)).1 = .ended c) := by
  obtain ⟨id, placed⟩ := opened.node_of_polls comes polls
  obtain ⟨i, u, found, rfl | ⟨gate, gated, rfl⟩⟩ := opened.compiled.unit_at placed
  · refine ⟨(· = u.index), fun j same => ⟨u, ?_, placed⟩, ?_⟩
    · rw [same, (opened.compiled.kinds_of_unit found).1, found]
    · rcases (opened.opens_task found placed).poll_cases opened.kept (fun _ acting => acting.within)
        u.finish_of comes resting polls with
        ⟨_, works⟩ | ⟨q, a, w, c, _, _, _, ended, works, closes⟩
      · exact .inl works
      · exact .inr ⟨_, _, _, _, works, closes, ended⟩
  · obtain ⟨check, checked⟩ := Option.isSome_iff_exists.mp
      ((opened.compiled.formed_of_unit found).checked (by rw [gated]; rfl))
    refine ⟨fun _ => False, fun _ => False.elim, ?_⟩
    rcases (opened.opens_gate found gated checked placed).poll_cases opened.kept (fun _ is => is)
      (fun a => u.conclude_of a.2) comes resting polls with
      ⟨_, works⟩ | ⟨q, a, w, c, _, _, _, ended, works, closes⟩
    · exact .inl works
    · exact .inr ⟨_, _, _, _, works, closes, ended⟩

/-! ## Free slots -/

/-- What is under an output of a node was put there by its job, which ended well. -/
theorem origin (opened : Opened s f inputs start) (placed : f.plan.enqueueOrder[job]? = some id)
    (node : f.plan.graph.nodes[id]? = some n) (output : k ∈ n.outputs)
    (comes : Machine.Comes start m) (there : m.shared.store.get? k = some held) :
    ∃ m₀, start.Commits m₀ job k held := by
  rcases opened.compiled.origin opened.delivering opened.seeded comes there with
    input | ⟨m₀, job', commits⟩
  · exact absurd input (opened.compiled.output_not_input node output)
  · obtain ⟨pairs, delivers, listed⟩ := commits.delivered opened.delivering
    have owns := opened.compiled.owns_of_delivers delivers _ (mem_pairs_of_lookup listed)
    rw [opened.compiled.owns_apart ⟨id, n, placed, node, output⟩ owns]
    exact ⟨m₀, commits⟩

/-- A store takes pairs of different keys whose slots are free. -/
theorem setAll_of_polls (opened : Opened s f inputs start)
    (placed : f.plan.enqueueOrder[job]? = some id) (node : f.plan.graph.nodes[id]? = some n)
    (comes : Machine.Comes start m) (polls : m.Polls job rest body) {pairs : List (Key × Held)}
    (once : (pairs.map (·.1)).Nodup) (outputs : ∀ p ∈ pairs, p.1 ∈ n.outputs) :
    (m.shared.store.setAll pairs).1 = .ok () :=
  (Store.setAll_ok once fun p mem => (opened.delivering.comes comes).free job _ polls.slot nofun p.1
    ⟨id, n, placed, node, outputs p mem⟩).1

/-! ## Verdicts -/

/-- A gated task that has a turn finds what its predicate came to. -/
theorem verdict_of_polls (opened : Opened s f inputs start) (found : f.unit? i = some u)
    (gated : u.task.gate = some gate) (placed : f.plan.enqueueOrder[job]? = some u.task.node)
    (comes : Machine.Comes start m) (polls : m.Polls job rest body) :
    ∃ v, m.shared.store.verdict? gate.sentinel = some v ∧
      ∀ f, v = .faulted f → u.work.fallback.isSome = true := by
  have dependency := opened.compiled.gate_dependency found gated
  have there := (opened.compiled.dependency_at placed dependency).2
  have succeeded : m.books.stateOf (f.plan.enqueueOrder.idxOf gate.node) = some .succeeded := by
    refine (opened.kept.reaches comes.reaches).dependencies polls _ ?_
    rw [Flow.jobDeps_at placed]
    exact List.mem_map_of_mem dependency
  obtain ⟨pairs, delivers, committed⟩ :=
    opened.delivering.succeeded opened.kept opened.told comes succeeded
  cases delivers with
  | @task i' u' found' placed' =>
    rw [there, Option.some.injEq] at placed'
    have kind := (opened.compiled.kinds_of_unit found').2.1
    rw [← placed', (opened.compiled.kinds_of_unit found).2.2 gate gated] at kind
    cases kind
  | @predicate i' u' gate' found' gated' placed' verdicts =>
    rw [there, Option.some.injEq] at placed'
    have kind := (opened.compiled.kinds_of_unit found').2.2 gate' gated'
    rw [← placed', (opened.compiled.kinds_of_unit found).2.2 gate gated] at kind
    cases kind
    rw [found, Option.some.injEq] at found'
    subst found'
    rw [gated, Option.some.injEq] at gated'
    subst gated'
    obtain ⟨check, e, v, _, _, verdict, rfl⟩ := verdicts
    refine ⟨v, ?_, ?_⟩
    · rw [Store.verdict?, (committed gate.sentinel (.verdict v) List.lookup_cons_self).2]
    · rintro f rfl
      exact FlowUnit.fallback_of_faulted verdict

end Opened

namespace Flow

/-- What is told before the jobs run. -/
def prelude (f : Flow) : List Happening :=
  .flowInit :: (f.plan.graph.tasks.map fun t => .taskInit t.name) ++ [.schedulerInit]

/-- The jobs of a run of the flow, before the first step. -/
def start (f : Flow) (q : Scheduler FlowState) (token : Token) (store : Store Held)
    (sinks : Sinks) : Machine FlowState :=
  f.opening q token { store, sinks := Lifecycle.tellAll f.tell f.prelude sinks }

/-- A run that is reported either found that its inputs did not fit, or all of its jobs ended. -/
theorem run_cases {s : FlowSpec} {f : Flow} (compiled : Compiled s f)
    {inputs : List (Key × Value)} {token : Token} {sinks : Sinks}
    {r : FlowReport FlowResults FlowState} (run : f.run inputs token sinks = .reported r) :
    (∃ e, Store.seeded f.plan inputs = .error e ∧ r.result = .error e.toError ∧ r.jobs = none ∧
      r.sinks = f.tell .flowDone (f.tell (.flowError e.toError) (f.tell .flowInit sinks))) ∨
    ∃ store handles q last report, Store.seeded f.plan inputs = .ok store ∧
      f.jobs = .ok (handles, q) ∧ f.Enqueued f.plan.enqueueOrder.length handles q ∧
      Opened s f inputs (f.start q token store sinks) ∧
      (f.start q token store sinks).run = .finished last ∧ report = Scheduler.report q.id last ∧
      r.jobs = some report ∧
      r.result = report.result.map
        (fun () => ⟨report.shared.store, f.plan.graph.outputs.map (·.key)⟩) ∧
      r.sinks = f.tell .flowDone (f.tell (Lifecycle.verdict r.result)
        (Lifecycle.tellAll f.tell (f.closing handles report) report.shared.sinks)) := by
  rw [Flow.run, Lifecycle.around] at run
  cases seeded : Store.seeded f.plan inputs with
  | error e =>
    simp only [seeded, Course.map] at run
    cases run
    exact .inl ⟨e, rfl, rfl, rfl, rfl⟩
  | ok store =>
    obtain ⟨handles, q, jobs, entered⟩ := compiled.jobs_enqueued
    have opened := compiled.opened entered.all.1 entered.all.2 seeded token
      (Lifecycle.tellAll f.tell f.prelude sinks)
    simp only [seeded, runJobs, jobs] at run
    obtain ⟨inner, ran, rfl⟩ := Course.map_reported run
    obtain ⟨report, reported, rfl⟩ := Course.map_reported ran
    obtain ⟨last, finished, rfl⟩ := Scheduler.finished_of_reported reported
    exact .inr
      ⟨store, handles, q, last, _, rfl, jobs, entered, opened, finished, rfl, rfl, rfl, rfl⟩

end Flow

end KeyFlow
