import KeyFlow.Proofs.Flow.Compiled
import KeyFlow.Proofs.Run.Idle

/-!
All jobs of a flow are taken in, each behind those that it depends on, so each finds the handles of
all that it waits for.
-/

namespace KeyFlow

namespace Flow

/-- The first `j` jobs of a flow are in. -/
structure Enqueued (f : Flow) (j : Nat) (handles : Flow.Handles) (s : Scheduler FlowState) :
    Prop where
  id : s.id = 0
  size : s.size = j
  handles : ∀ id h, handles.lookup id = some h ↔
    ∃ i < j, f.plan.enqueueOrder[i]? = some id ∧ h = ⟨0, i⟩
  fresh : Scheduler.Unstarted (f.jobDeps.take j) s
  bodies : s.bodies = f.jobBodies.take j

theorem Enqueued.start (f : Flow) : f.Enqueued 0 [] (Scheduler.create 0 f.settings) := by
  refine ⟨rfl, rfl, fun id h => ⟨nofun, ?_⟩, .create 0 f.settings, rfl⟩
  rintro ⟨i, lt, _⟩
  omega

/-- Nodes are taken in one after another. -/
theorem enqueue_append (f : Flow) (ids ids' : List NodeId) (handles : Handles)
    (s : Scheduler FlowState) : f.enqueue (ids ++ ids') handles s =
      (f.enqueue ids handles s).bind fun (handles, s) => f.enqueue ids' handles s := by
  induction ids generalizing handles s with
  | nil => rfl
  | cons id ids ih =>
    rw [List.cons_append, enqueue, enqueue]
    cases f.job? id with
    | none => rfl
    | some job =>
      rcases entered : s.enqueue { job with
        dependencies := (f.plan.graph.dependencyNodes id).filterMap (handles.lookup ·) } with
        ⟨e | h, s'⟩
      · simp only [entered, Except.bind]
      · simp only [entered]
        exact ih _ s'

/-- When all jobs are in, they are all there. -/
theorem Enqueued.all {f : Flow} {handles : Handles} {q : Scheduler FlowState}
    (entered : f.Enqueued f.plan.enqueueOrder.length handles q) :
    Scheduler.Unstarted f.jobDeps q ∧ q.bodies = f.jobBodies := by
  have deps : f.jobDeps.length = f.plan.enqueueOrder.length := List.length_map ..
  have bodies : f.jobBodies.length ≤ f.plan.enqueueOrder.length := List.length_filterMap_le ..
  refine ⟨?_, ?_⟩
  · have fresh := entered.fresh
    rwa [List.take_of_length_le (Nat.le_of_eq deps)] at fresh
  · rw [entered.bodies, List.take_of_length_le bodies]

/-- The job of a node has the place of the node. -/
theorem Enqueued.lookup_node {f : Flow} {handles : Handles} {q : Scheduler FlowState}
    (entered : f.Enqueued f.plan.enqueueOrder.length handles q) {j : Nat} {id : NodeId}
    (placed : f.plan.enqueueOrder[j]? = some id) : handles.lookup id = some ⟨q.id, j⟩ :=
  (entered.handles id _).mpr
    ⟨j, (List.getElem?_eq_some_iff.mp placed).1, placed, by rw [entered.id]⟩

end Flow

namespace Compiled

variable {s : FlowSpec} {f : Flow} {j : Nat} {id : NodeId} {handles : Flow.Handles}
  {q : Scheduler FlowState}

/-- What a node depends on was taken in before. -/
theorem handle_of_dependency (compiled : Compiled s f) (entered : f.Enqueued j handles q)
    (placed : f.plan.enqueueOrder[j]? = some id) {d : NodeId}
    (dependency : d ∈ f.plan.graph.dependencyNodes id) :
    handles.lookup d = some ⟨0, f.plan.enqueueOrder.idxOf d⟩ := by
  obtain ⟨lt, there⟩ := compiled.dependency_at placed dependency
  exact (entered.handles d _).mpr ⟨_, lt, there, rfl⟩

/-- The handles of what a node depends on are those of earlier jobs. -/
theorem handles_eq (compiled : Compiled s f) (entered : f.Enqueued j handles q)
    (placed : f.plan.enqueueOrder[j]? = some id) :
    (f.plan.graph.dependencyNodes id).filterMap (handles.lookup ·) =
      (f.plan.graph.dependencyNodes id).map fun d => ⟨0, f.plan.enqueueOrder.idxOf d⟩ := by
  rw [← List.filterMap_eq_map]
  exact List.filterMap_congr fun d dependency =>
    compiled.handle_of_dependency entered placed dependency

/-- One more job is taken in. -/
theorem enqueue_step (compiled : Compiled s f) (entered : f.Enqueued j handles q)
    (placed : f.plan.enqueueOrder[j]? = some id) :
    ∃ q', f.enqueue [id] handles q = .ok (handles ++ [(id, ⟨0, j⟩)], q') ∧
      f.Enqueued (j + 1) (handles ++ [(id, ⟨0, j⟩)]) q' := by
  obtain ⟨job, found, body⟩ : ∃ job, f.job? id = some job ∧
      f.jobBodies[j]? = some job.body := by
    have hasBody := compiled.jobBody_isSome (compiled.inRange (List.mem_of_getElem? placed))
    rw [Option.isSome_map] at hasBody
    obtain ⟨job, found⟩ := Option.isSome_iff_exists.mp hasBody
    exact ⟨job, found, by rw [compiled.jobBodies_at, placed, Option.bind_some, found]; rfl⟩
  let before := (f.plan.graph.dependencyNodes id).map
    fun d => (⟨0, f.plan.enqueueOrder.idxOf d⟩ : Handle)
  have own : ∀ h ∈ before, h.scheduler = q.id ∧ h.index < q.size := by
    intro h mem
    obtain ⟨d, dependency, rfl⟩ := List.mem_map.mp mem
    exact ⟨entered.id.symm, entered.size ▸ (compiled.dependency_at placed dependency).1⟩
  obtain ⟨q', eq, same, size, bodies, fresh⟩ :=
    entered.fresh.enqueue_ok { job with dependencies := before } own
  rw [entered.id, entered.size] at eq
  refine ⟨q', ?_, same.trans entered.id, by rw [size, entered.size], ?_, ?_, ?_⟩
  · have handed : (f.plan.graph.dependencyNodes id).filterMap (handles.lookup ·) = before :=
      compiled.handles_eq entered placed
    rw [Flow.enqueue]
    simp only [found, handed, eq]
    rfl
  · intro x h
    rw [List.lookup_append, Option.or_eq_some_iff, entered.handles]
    constructor
    · rintro (⟨i, lt, there, is⟩ | ⟨_, last⟩)
      · exact ⟨i, by omega, there, is⟩
      · obtain ⟨rfl, rfl⟩ := Prod.mk.inj (List.mem_singleton.mp (mem_pairs_of_lookup last))
        exact ⟨j, by omega, placed, rfl⟩
    · rintro ⟨i, lt, there, rfl⟩
      by_cases last : i = j
      · subst last
        rw [placed, Option.some.injEq] at there
        subst there
        refine .inr ⟨Option.eq_none_iff_forall_ne_some.mpr fun h listed => ?_,
          List.lookup_cons_self⟩
        obtain ⟨i', lt', there', _⟩ := (entered.handles _ _).mp listed
        rw [← compiled.idxOf_at placed, compiled.idxOf_at there'] at lt'
        omega
      · exact .inl ⟨i, by omega, there, rfl⟩
  · rw [List.take_add_one, Flow.jobDeps_at placed]
    rw [List.map_map] at fresh
    exact fresh
  · rw [bodies, entered.bodies, List.take_add_one, body]
    rfl

/-- The first jobs are taken in. -/
theorem enqueue_ok (compiled : Compiled s f) (within : j ≤ f.plan.enqueueOrder.length) :
    ∃ handles q, f.enqueue (f.plan.enqueueOrder.take j) [] (Scheduler.create 0 f.settings) =
      .ok (handles, q) ∧ f.Enqueued j handles q := by
  induction j with
  | zero => exact ⟨[], _, rfl, .start f⟩
  | succ j ih =>
    obtain ⟨handles, q, eq, entered⟩ := ih (Nat.le_of_succ_le within)
    obtain ⟨q', next, entered'⟩ :=
      compiled.enqueue_step entered (List.getElem?_eq_getElem within)
    refine ⟨_, q', ?_, entered'⟩
    rw [List.take_succ_eq_append_getElem within, Flow.enqueue_append, eq]
    exact next

/-- All jobs are taken in. -/
theorem jobs_enqueued (compiled : Compiled s f) : ∃ handles q, f.jobs = .ok (handles, q) ∧
    f.Enqueued f.plan.enqueueOrder.length handles q := by
  obtain ⟨handles, q, eq, entered⟩ := compiled.enqueue_ok (Nat.le_refl _)
  refine ⟨handles, q, ?_, entered⟩
  rw [List.take_length] at eq
  rw [Flow.jobs]
  exact eq

/-- The nodes with a job are those that are reached. -/
theorem hasHandle_iff (compiled : Compiled s f) {handles : Flow.Handles}
    (entered : f.Enqueued f.plan.enqueueOrder.length handles q) {id : NodeId} :
    (handles.lookup id).isSome = true ↔ f.plan.graph.Reached id := by
  rw [← compiled.mem_enqueueOrder, Option.isSome_iff_exists]
  simp only [entered.handles]
  constructor
  · rintro ⟨_, j, _, placed, _⟩
    exact List.mem_of_getElem? placed
  · intro mem
    obtain ⟨j, lt, placed⟩ := List.mem_iff_getElem.mp mem
    exact ⟨_, j, lt, placed ▸ List.getElem?_eq_getElem lt, rfl⟩

theorem jobs_ok (compiled : Compiled s f) : ∃ handles q, f.jobs = .ok (handles, q) ∧
    Scheduler.Unstarted f.jobDeps q ∧ q.bodies = f.jobBodies := by
  obtain ⟨handles, q, eq, entered⟩ := compiled.jobs_enqueued
  exact ⟨handles, q, eq, entered.all⟩

end Compiled

end KeyFlow
