import KeyFlow.Parallel.Run
import KeyFlow.Proofs.Run.Idle

/-!
The jobs of independent units, numbered one after another. They are all taken in: a body that ends a
slice or a map waits for all of its elements, and apart from that no job waits for another one.
-/

namespace KeyFlow

/-- A job of a unit, with the numbers of the jobs that it waits for. -/
structure UnitPart where
  unit : String
  /-- What its errors are called after. -/
  label : String
  /-- The job is all of its unit. -/
  whole : Bool
  body : TaskBody Unit
  after : List Nat := []

/-- The part as it is enqueued. -/
def UnitPart.job (tell : Happening → Sinks → Sinks) (part : UnitPart) : Job Sinks :=
  WorkUnit.job tell part.unit part.label part.whole (part.after.map (⟨0, ·⟩)) part.body

namespace WorkUnit

/-- The jobs of the elements of a slice or a map. -/
def elements (first : Nat) (name : String) (items : List UnitBody) : List UnitPart :=
  items.mapIdx fun i body => ⟨name, s!"{name}[{i}]", false, body (first + i), []⟩

/-- The jobs of a unit of which the first one has this number. -/
def parts (first : Nat) : WorkUnit → List UnitPart
  | .task name body => [⟨name, name, true, body first, []⟩]
  | .fanOut name items finish =>
    elements first name items ++ finish.toList.map fun body =>
      ⟨name, s!"{name} (end)", false, body (first + items.length),
        List.range' first items.length⟩

/-- The numbers of its jobs. -/
def places (first : Nat) (u : WorkUnit) : List Nat := List.range' first (u.parts first).length

/-- Units, each with the number of its first job. -/
def placed (first : Nat) : List WorkUnit → List (WorkUnit × Nat)
  | [] => []
  | u :: us => (u, first) :: placed (first + (u.parts first).length) us

end WorkUnit

namespace Parallel

/-- The units, each with the number of its first job. -/
def placed (p : Parallel) : List (WorkUnit × Nat) := WorkUnit.placed 0 p.units

/-- All jobs, in the order of their numbers. -/
def parts (p : Parallel) : List UnitPart := p.placed.flatMap fun u => u.1.parts u.2

/-- The handles of a unit's jobs. -/
def handles (u : WorkUnit × Nat) : WorkUnit × List Handle :=
  (u.1, (u.1.places u.2).map (⟨0, ·⟩))

end Parallel

/-! ## Numbers -/

namespace WorkUnit

theorem mem_places {u : WorkUnit} {first job : Nat} :
    job ∈ u.places first ↔ first ≤ job ∧ job < first + (u.parts first).length :=
  List.mem_range'_1

theorem placed_le {us : List WorkUnit} {base : Nat} {q : WorkUnit × Nat}
    (mem : q ∈ placed base us) : base ≤ q.2 := by
  induction us generalizing base with
  | nil => cases mem
  | cons u us ih =>
    rcases List.mem_cons.mp mem with rfl | later
    · exact Nat.le_refl _
    · exact Nat.le_trans (Nat.le_add_right ..) (ih later)

/-- The jobs of a unit come before those of the units after it. -/
theorem placed_pairwise (us : List WorkUnit) (base : Nat) :
    (placed base us).Pairwise fun q q' => q.2 + (q.1.parts q.2).length ≤ q'.2 := by
  induction us generalizing base with
  | nil => exact .nil
  | cons u us ih => exact .cons (fun _ mem => placed_le mem) (ih _)

theorem placed_units (us : List WorkUnit) (base : Nat) : (placed base us).map (·.1) = us := by
  induction us generalizing base with
  | nil => rfl
  | cons u us ih => exact congrArg (u :: ·) (ih _)

/-- The jobs of a unit have their numbers. -/
theorem parts_at {us : List WorkUnit} {base first k : Nat} {u : WorkUnit}
    (mem : (u, first) ∈ placed base us) (within : k < (u.parts first).length) :
    ((placed base us).flatMap fun q => q.1.parts q.2)[first - base + k]? =
      (u.parts first)[k]? := by
  induction us generalizing base with
  | nil => cases mem
  | cons v us ih =>
    rw [placed, List.flatMap_cons]
    rcases List.mem_cons.mp mem with is | later
    · cases is
      rw [Nat.sub_self, Nat.zero_add]
      exact List.getElem?_append_left within
    · have after := placed_le later
      have place : first - base + k =
          (v.parts base).length + (first - (base + (v.parts base).length) + k) := by
        omega
      rw [place, List.getElem?_append_right (Nat.le_add_right ..), Nat.add_sub_cancel_left]
      exact ih later

/-- Every job belongs to a unit. -/
theorem unit_of_part {us : List WorkUnit} {base k : Nat} {part : UnitPart}
    (partAt : ((placed base us).flatMap fun q => q.1.parts q.2)[k]? = some part) :
    ∃ q ∈ placed base us, base + k ∈ q.1.places q.2 ∧ part ∈ q.1.parts q.2 := by
  induction us generalizing base k with
  | nil => cases partAt
  | cons u us ih =>
    rw [placed, List.flatMap_cons] at partAt
    by_cases own : k < (u.parts base).length
    · rw [List.getElem?_append_left own] at partAt
      exact ⟨(u, base), List.mem_cons_self .., mem_places.mpr ⟨Nat.le_add_right .., by simpa⟩,
        List.mem_of_getElem? partAt⟩
    · rw [List.getElem?_append_right (Nat.le_of_not_lt own)] at partAt
      obtain ⟨q, mem, place, listed⟩ := ih partAt
      refine ⟨q, List.mem_cons_of_mem _ mem, ?_, listed⟩
      rwa [show base + (u.parts base).length + (k - (u.parts base).length) = base + k by omega]
        at place

/-! ## Jobs that wait -/

/-- A job waits for all elements of its unit, or for nothing. -/
theorem after_of_part {u : WorkUnit} {first : Nat} {part : UnitPart} (mem : part ∈ u.parts first) :
    part.after = [] ∨
      ∃ name items finish, u = .fanOut name items (some finish) ∧
        part = ⟨name, s!"{name} (end)", false, finish (first + items.length),
          List.range' first items.length⟩ := by
  cases u with
  | task name body => exact .inl (List.mem_singleton.mp mem ▸ rfl)
  | fanOut name items finish =>
    rcases List.mem_append.mp mem with element | last
    · obtain ⟨i, within, rfl⟩ := List.mem_mapIdx.mp element
      exact .inl rfl
    · obtain ⟨body, is, rfl⟩ := List.mem_map.mp last
      exact .inr ⟨name, items, body, by rw [Option.mem_toList.mp is], rfl⟩

/-! ## Jobs that are taken in -/

theorem length_elements (first : Nat) (name : String) (items : List UnitBody) :
    (elements first name items).length = items.length :=
  List.length_mapIdx

variable (tell : Happening → Sinks → Sinks)

/-- The elements are enqueued in their order. -/
theorem elements_jobs (first : Nat) (name : String) (items : List UnitBody) :
    (items.mapIdx fun i body => job tell name s!"{name}[{i}]" false [] (body (first + i))) =
      (elements first name items).map (UnitPart.job tell) := by
  refine List.ext_getElem? fun i => ?_
  rw [elements, List.getElem?_map, List.getElem?_mapIdx, List.getElem?_mapIdx, Option.map_map]
  rfl

/-- The jobs of a unit are taken in. -/
theorem enqueue_ok {deps : List (List Nat)} {s : Scheduler Sinks}
    (fresh : Scheduler.Unstarted deps s) (id : s.id = 0) (u : WorkUnit) :
    ∃ s', u.enqueue tell s = .ok ((u.places s.size).map (⟨0, ·⟩), s') ∧
      Scheduler.TakesIn deps s ((u.parts s.size).map (UnitPart.job tell)) s' := by
  cases u with
  | task name body =>
    obtain ⟨s', eq, taken⟩ := fresh.enqueueAll_ok
      [job tell name name true [] (body s.size)] (by simp [job])
    exact ⟨s', id ▸ eq, taken⟩
  | fanOut name items finish =>
    have jobs := elements_jobs tell s.size name items
    have length := length_elements s.size name items
    obtain ⟨s₁, eq, taken⟩ := fresh.enqueueAll_ok
      ((elements s.size name items).map (UnitPart.job tell)) fun j mem h dependency => by
        obtain ⟨_, element, rfl⟩ := List.mem_map.mp mem
        obtain ⟨i, within, rfl⟩ := List.mem_mapIdx.mp element
        cases dependency
    rw [List.length_map, length, id] at eq
    cases finish with
    | none =>
      refine ⟨s₁, ?_, ?_⟩
      · unfold enqueue
        simp only [jobs, eq, places, parts, Option.toList_none, List.map_nil, List.append_nil,
          length]
      · simpa [parts] using taken
    | some body =>
      have size : s₁.size = s.size + items.length := by simpa [length] using taken.size
      obtain ⟨s₂, eq₂, taken₂⟩ := taken.unstarted.enqueueAll_ok
        [job tell name s!"{name} (end)" false ((List.range' s.size items.length).map (⟨0, ·⟩))
          (body s₁.size)] fun j mem h dependency => by
        rw [List.mem_singleton.mp mem] at dependency
        obtain ⟨i, within, rfl⟩ := List.mem_map.mp dependency
        exact ⟨(taken.id.trans id).symm, size ▸ (List.mem_range'_1.mp within).2⟩
      refine ⟨s₂, ?_, ?_⟩
      · rw [taken.id, id, size] at eq₂
        unfold enqueue
        simp only [jobs, eq, size, eq₂, Except.map, places, parts, Option.toList_some,
          List.map_singleton, List.length_append, length, List.length_singleton,
          List.range'_1_concat, List.map_append]
        rfl
      · have both := taken.trans taken₂
        rw [size] at both
        rw [parts, List.map_append]
        exact both

/-- The jobs of all units are taken in. -/
theorem enqueueAll_ok {deps : List (List Nat)} {s : Scheduler Sinks}
    (fresh : Scheduler.Unstarted deps s) (id : s.id = 0) (us : List WorkUnit) :
    ∃ s', enqueueAll tell s us = .ok ((placed s.size us).map Parallel.handles, s') ∧
      Scheduler.TakesIn deps s
        (((placed s.size us).flatMap fun q => q.1.parts q.2).map (UnitPart.job tell)) s' := by
  induction us generalizing s deps with
  | nil => exact ⟨s, rfl, .nothing fresh⟩
  | cons u us ih =>
    obtain ⟨s₁, eq, taken⟩ := enqueue_ok tell fresh id u
    obtain ⟨s', rest, taken'⟩ := ih taken.unstarted (taken.id.trans id)
    have size : s₁.size = s.size + (u.parts s.size).length := by simpa using taken.size
    rw [size] at rest taken'
    refine ⟨s', ?_, ?_⟩
    · rw [enqueueAll]
      simp only [eq, rest]
      rfl
    · rw [placed, List.flatMap_cons, List.map_append]
      exact taken.trans taken'

end WorkUnit

/-- All jobs are taken in. -/
theorem Parallel.jobs_ok (p : Parallel) :
    ∃ q, p.jobs = .ok (p.placed.map Parallel.handles, q) ∧ q.id = 0 ∧
      q.bodies = p.parts.map (fun part => (part.job p.tell).body) ∧
      Scheduler.Unstarted (p.parts.map (·.after)) q ∧
      q.books.continueOnError = p.settings.continueOnError := by
  obtain ⟨q, eq, taken⟩ :=
    WorkUnit.enqueueAll_ok p.tell (.create 0 p.settings) rfl p.units
  have after : (fun job : Job Sinks => job.dependencies.map (·.index)) ∘ UnitPart.job p.tell =
      (·.after) :=
    funext fun part => (List.map_map ..).trans (List.map_id _)
  refine ⟨q, eq, taken.id, ?_, ?_, taken.goesOn⟩
  · rw [taken.bodies, List.map_map]
    rfl
  · have unstarted := taken.unstarted
    rw [List.nil_append, List.map_map, after] at unstarted
    exact unstarted

end KeyFlow
