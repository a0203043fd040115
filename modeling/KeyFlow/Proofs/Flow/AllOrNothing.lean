import KeyFlow.Proofs.Flow.Outcome
import KeyFlow.Proofs.Flow.Reported

/-!
What a run leaves of the outputs of a task: all of them or none. They are those that its body
provided, or those that stand in for them; and where values stand in, no fault is left to be seen. A
task that is not reached has no job, and nothing is left of its outputs.
-/

namespace KeyFlow

namespace FlowUnit

/-- Where the values of the outputs come from: from the body, if it fulfils what was declared, and
else from the declaration. -/
inductive Supplies (u : FlowUnit) (start : Machine FlowState) (job : Nat)
    (values : List (Key × Value)) : Prop
  | provided (a : Act) (asked : List Request) (came : u.cameTo start job = some a)
    (fulfils : u.Fulfils asked a) (last : ∀ p ∈ values, lastProvided asked p.1 = some p.2)
  | standIn (fallback : List Value)
    (unfulfilled : ∀ a asked, u.cameTo start job = some a → ¬ u.Fulfils asked a)
    (declared : u.work.fallback = some fallback) (is : values = u.task.outputs.zip fallback)

/-- What a run leaves of the outputs of a task whose job ended in this state. -/
structure AllOrNothing (u : FlowUnit) (start : Machine FlowState) (job : Nat) (state : JobState)
    (store : Store Held) : Prop where
  full : state = .succeeded → ∃ values : List (Key × Value), values.map (·.1) = u.task.outputs ∧
    (∀ p ∈ values, store.get? p.1 = some (.value p.2)) ∧ u.Supplies start job values
  empty : state ≠ .succeeded → ∀ k ∈ u.task.outputs, store.get? k = none

end FlowUnit

/-- What a run leaves of a task: no job and no outputs, if it is not reached, and else all of its
outputs or none, as its job ended. A task that has values to stand in never fails. -/
structure Flow.Leaves (f : Flow) (start : Machine FlowState) (handles : Flow.Handles)
    (report : Report FlowState) (u : FlowUnit) : Prop where
  idle : ¬ f.plan.graph.Reached u.task.node → handles.lookup u.task.node = none ∧
    u.task.outputs ≠ [] ∧ ∀ k ∈ u.task.outputs, report.shared.store.get? k = none
  ran : f.plan.graph.Reached u.task.node → ∃ job state,
    handles.lookup u.task.node = some ⟨report.scheduler, job⟩ ∧ report.states[job]? = some state ∧
    u.AllOrNothing start job state report.shared.store ∧
    (u.work.fallback.isSome = true → state ≠ .failed)
  gate : u.work.fallback.isSome = true → ∀ gate, u.task.gate = some gate →
    ∀ h, handles.lookup gate.node = some h → ∃ state,
      h.scheduler = report.scheduler ∧ report.states[h.index]? = some state ∧ state ≠ .failed

/-- A task that is not reached has outputs; one without is run for its effects. -/
theorem Compiled.outputs_of_unreached {s : FlowSpec} {f : Flow} (compiled : Compiled s f) {i : Nat}
    {u : FlowUnit} (found : f.unit? i = some u)
    (unreached : ¬ f.plan.graph.Reached u.task.node) : u.task.outputs ≠ [] := by
  intro idle
  have invoke := (compiled.idle_iff found).mp idle
  obtain ⟨t, work, placed, _, rfl⟩ := compiled.of_unit found
  refine unreached ?_
  rw [compiled.graph]
  refine .root (Spec.mem_roots_of_invoke (t := t.decl) ?_ invoke)
  rw [FlowSpec.spec, List.getElem?_map, placed]
  rfl

namespace Opened

variable {s : FlowSpec} {f : Flow} {inputs : List (Key × Value)}
  {start last : Machine FlowState} {i job : Nat} {u : FlowUnit} {gate : Gate}
  {ends : List (Nat × Conclusion)}

/-- Nobody puts anything under the outputs of a task that is not reached. -/
theorem unreached_empty (opened : Opened s f inputs start) (run : start.run = .finished last)
    (found : f.unit? i = some u) (unreached : ¬ f.plan.graph.Reached u.task.node) {k : Key}
    (output : k ∈ u.task.outputs) : last.shared.store.get? k = none := by
  by_contra present
  obtain ⟨held, there⟩ := Option.ne_none_iff_exists'.mp present
  obtain ⟨n, node⟩ := opened.compiled.node_of_unit found
  have output := ((opened.compiled.nodes_of_unit found).1.outputs n node).1 k output
  obtain ⟨m, comes, same⟩ := opened.delivering.last opened.kept run
  rw [same] at there
  rcases opened.compiled.origin opened.delivering opened.seeded comes there with
    input | ⟨_, _, commits⟩
  · exact opened.compiled.output_not_input node output input
  · obtain ⟨pairs, delivers, listed⟩ := commits.delivered opened.delivering
    obtain ⟨_, n', placed, node', output'⟩ :=
      opened.compiled.owns_of_delivers delivers _ (mem_pairs_of_lookup listed)
    rw [← opened.compiled.provider_unique node output node' output'] at placed
    exact unreached (opened.compiled.mem_enqueueOrder.mp (List.mem_of_getElem? placed))

theorem allOrNothing (opened : Opened s f inputs start) (run : start.run = .finished last)
    (rests : Machine.Rests f.jobDeps start last ends) (found : f.unit? i = some u)
    (placed : f.plan.enqueueOrder[job]? = some u.task.node) :
    ∃ state, last.books.stateOf job = some state ∧
      u.AllOrNothing start job state last.shared.store ∧
      (u.work.fallback.isSome = true → state ≠ .failed) := by
  have formed := opened.compiled.formed_of_unit found
  obtain ⟨state, at_last, outcome⟩ := opened.task_outcome run rests found placed
  have empty (unsuccessful : state ≠ .succeeded) (k : Key) (output : k ∈ u.task.outputs) :
      last.shared.store.get? k = none := by
    refine Option.eq_none_iff_forall_ne_some.mpr fun held there => unsuccessful ?_
    have succeeded := opened.succeeded_of_stored run rests found placed output there
    exact Option.some.inj (at_last.symm.trans succeeded)
  refine ⟨state, at_last, ⟨?_, empty⟩, ?_⟩
  · rintro rfl
    rcases outcome with ⟨cause, no, _⟩ | ⟨a, came, sound, is, _, stored⟩
    · cases no
    have finishes := formed.finale_finishes sound
    generalize u.finale a = fin at finishes is stored
    cases finishes with
    | declined | failed => cases is
    | succeeded asked fulfils =>
      cases a with
      | unruled | declined | faulted => exact fulfils.elim
      | ran asked' e =>
        refine ⟨_, Staging.provided_keys fulfils.2.2, fun p mem => ?_,
          .provided _ asked came fulfils fun p mem => (Staging.mem_provided.mp mem).2⟩
        exact stored (p.1, .value p.2) (List.mem_map_of_mem mem)
    | recovered f values fault fallback =>
      refine ⟨_, formed.zip_keys fallback, fun p mem => ?_,
        .standIn values (fun a' asked came' => ?_) fallback rfl⟩
      · exact stored (p.1, .value p.2) (List.mem_map_of_mem mem)
      · rw [came, Option.some.injEq] at came'
        exact came' ▸ formed.not_fulfils fault asked
  · rintro stands rfl
    rcases outcome with ⟨cause, no, _⟩ | ⟨a, came, sound, is, _, stored⟩
    · cases no
    have finishes := formed.finale_finishes sound
    generalize u.finale a = fin at finishes is
    cases finishes with
    | declined | succeeded | recovered => cases is
    | failed f fault fallback =>
      rw [fallback] at stands
      cases stands

/-- Where values stand in, whatever its check does, no predicate fails. -/
theorem gate_unfailed (opened : Opened s f inputs start)
    (rests : Machine.Rests f.jobDeps start last ends) (found : f.unit? i = some u)
    (gated : u.task.gate = some gate) (placed : f.plan.enqueueOrder[job]? = some gate.node)
    (stands : u.work.fallback.isSome = true) :
    ∃ state, last.books.stateOf job = some state ∧ state ≠ .failed := by
  obtain ⟨state, at_last, ⟨cause, rfl, _⟩ | ⟨e, _, _, rfl⟩⟩ :=
    opened.gate_outcome rests found gated placed
  · refine ⟨_, at_last, fun failed => ?_⟩
    cases failed
  · refine ⟨_, at_last, fun failed => ?_⟩
    obtain ⟨v, said⟩ := u.verdict_of_fallback stands e
    rw [FlowUnit.ruling, said] at failed
    cases failed

end Opened

/-- What a run leaves of each task. -/
theorem Opened.leaves {s : FlowSpec} {f : Flow} {inputs : List (Key × Value)}
    {start last : Machine FlowState} {i : Nat} {u : FlowUnit} {handles : Flow.Handles}
    {q : Scheduler FlowState} (opened : Opened s f inputs start)
    (entered : f.Enqueued f.plan.enqueueOrder.length handles q) (run : start.run = .finished last)
    (found : f.unit? i = some u) : f.Leaves start handles (Scheduler.report q.id last) u := by
  obtain ⟨ends, rests⟩ := opened.kept.rests opened.told run
  have states (j : Nat) : (Scheduler.report q.id last).states[j]? = last.books.stateOf j :=
    Books.getElem?_states ..
  refine ⟨fun unreached => ⟨?_, opened.compiled.outputs_of_unreached found unreached,
    fun k => opened.unreached_empty run found unreached⟩, fun reached => ?_,
    fun stands gate gated h held => ?_⟩
  · rw [← Option.not_isSome_iff_eq_none, opened.compiled.hasHandle_iff entered]
    exact unreached
  · have placed := opened.compiled.place_of_node reached
    obtain ⟨state, at_last, settled, masked⟩ := opened.allOrNothing run rests found placed
    exact ⟨_, state, entered.lookup_node placed, (states _).trans at_last, settled, masked⟩
  · obtain ⟨j, _, placed, rfl⟩ := (entered.handles _ h).mp held
    obtain ⟨state, at_last, unfailed⟩ := opened.gate_unfailed rests found gated placed stands
    exact ⟨state, entered.id.symm, (states _).trans at_last, unfailed⟩

/-- In every run of a flow that was built, whatever its bodies do and however it is cancelled: when
the run is reported, each task has all of its outputs in the store, just if its job has succeeded,
or none. They are the values that its body provided last, if it ran, returned and had provided them
all, and otherwise those that were declared to stand in. A task with such values has not failed, and
neither has its predicate. Unless a body waits for a cancellation, the run is reported. -/
theorem Flow.outputs_all_or_nothing (s : FlowSpec) (f : Flow) (built : s.build = .ok f)
    (inputs : List (Key × Value)) (token : Token) (sinks : Sinks) :
    (∀ r, f.run inputs token sinks = .reported r →
      (∃ e, Store.seeded f.plan inputs = .error e ∧ r.jobs = none) ∨
      ∃ store handles q last report, Store.seeded f.plan inputs = .ok store ∧
        f.jobs = .ok (handles, q) ∧ (f.start q token store sinks).run = .finished last ∧
        r.jobs = some report ∧ report = Scheduler.report q.id last ∧
        (∀ results, r.result = .ok results → results.store = report.shared.store) ∧
        ∀ i < s.tasks.length, ∃ u, f.unit? i = some u ∧
          f.Leaves (f.start q token store sinks) handles report u) ∧
    ((∀ t ∈ s.tasks, t.Unwaiting) → ∃ r, f.run inputs token sinks = .reported r) := by
  have compiled := Compiled.of_build built
  refine ⟨fun r run => ?_, fun unwaiting => compiled.reported unwaiting inputs token sinks⟩
  rcases f.run_cases compiled run with ⟨e, refused, _, noJobs, _⟩ |
    ⟨store, handles, q, last, report, seeded, jobs, entered, opened, finished, rfl, ran, result, _⟩
  · exact .inl ⟨e, refused, noJobs⟩
  refine .inr ⟨store, handles, q, last, _, seeded, jobs, finished, ran, rfl,
    fun results ok => ?_, fun i declared => ?_⟩
  · rw [result] at ok
    cases outcome : (Scheduler.report q.id last).result with
    | error e =>
      rw [outcome] at ok
      cases ok
    | ok =>
      rw [outcome] at ok
      cases ok
      rfl
  · obtain ⟨work, _, found⟩ := compiled.unit_ok (List.getElem?_eq_getElem declared)
    exact ⟨_, found, opened.leaves entered finished found⟩

/-- The task of the gated flow passes its input on. -/
theorem Flow.outputs_all_or_nothing_gated :
    FlowSpec.gated.build = .ok gated ∧ ∃ r store handles q last report u job state,
      gated.run [(.named "in", .untyped (.int 1))] {} {} = .reported r ∧
      gated.jobs = .ok (handles, q) ∧ (gated.start q {} store {}).run = .finished last ∧
      r.jobs = some report ∧ report = Scheduler.report q.id last ∧ gated.unit? 0 = some u ∧
      report.states[job]? = some state ∧
      u.AllOrNothing (gated.start q {} store {}) job state report.shared.store ∧
      (u.work.fallback.isSome = true → state ≠ .failed) := by
  have holds := outputs_all_or_nothing FlowSpec.gated gated FlowSpec.gated_build
    [(.named "in", .untyped (.int 1))] {} {}
  obtain ⟨r, run⟩ := holds.2 FlowSpec.gated_unwaiting
  refine ⟨FlowSpec.gated_build, r, ?_⟩
  rcases holds.1 r run with
    ⟨e, refused, _⟩ | ⟨store, handles, q, last, report, _, jobs, finished, ran, is, _, all⟩
  · obtain ⟨store, seeded⟩ := gated_seeded
    rw [seeded] at refused
    cases refused
  · obtain ⟨u, found, leaves⟩ := all 0 (by decide)
    obtain ⟨job, state, _, placed, settled, masked⟩ := leaves.ran (gated_reached found)
    exact ⟨store, handles, q, last, report, u, job, state, run, jobs, finished, ran, is, found,
      placed, settled, masked⟩

end KeyFlow
