import KeyFlow.Proofs.Jobs.Balanced
import KeyFlow.Proofs.Run.Told

/-!
Handles of several schedulers. Each handle that was issued stands for a job of the scheduler that
issued it, so a job is refused just where it names a handle of another scheduler, before anything is
written down. What was taken in stands at one place in the books and in the tables of bodies and
names, where a run finds each body once.
-/

namespace KeyFlow

/-- A call to `enqueue` of the scheduler at this place, and what it was answered. -/
structure Enqueueing (σ : Type) where
  place : Nat
  job : Job σ
  answer : Except EnqueueError Handle

namespace Scheduler

variable {σ : Type} {s s' : Scheduler σ} {calls : List (Enqueueing σ)}
  {entries : List (Job σ × Handle)}

/-- The scheduler at this place has issued the handle. -/
def Issued (calls : List (Enqueueing σ)) (place : Nat) (h : Handle) : Prop :=
  ∃ call ∈ calls, call.place = place ∧ call.answer = .ok h

/-- The job names a handle that another scheduler has issued. -/
def Foreign (calls : List (Enqueueing σ)) (place : Nat) (job : Job σ) : Prop :=
  ∃ h ∈ job.dependencies, ∃ issuer, issuer ≠ place ∧ Issued calls issuer h

/-- The jobs that the scheduler at this place has taken in, each with the handle issued for it. -/
def accepted (calls : List (Enqueueing σ)) (place : Nat) : List (Job σ × Handle) :=
  calls.filterMap fun call =>
    if call.place = place then call.answer.toOption.map (call.job, ·) else none

/-- Schedulers with these ids and settings after calls to `enqueue`, on any of them, with jobs that
name handles which any of them has issued before. -/
inductive Pool (created : List (Nat × RunSettings)) :
    List (Scheduler σ) → List (Enqueueing σ) → Prop where
  | create : Pool created (created.map fun c => Scheduler.create c.1 c.2) []
  | enqueue {pool : List (Scheduler σ)} {calls : List (Enqueueing σ)} {place : Nat}
    {s : Scheduler σ} {job : Job σ} (before : Pool created pool calls)
    (listedAt : pool[place]? = some s)
    (issued : ∀ h ∈ job.dependencies, ∃ issuer, Issued calls issuer h) :
    Pool created (pool.set place (s.enqueue job).2) (calls ++ [⟨place, job, (s.enqueue job).1⟩])

/-- The tables have a row for each of these jobs, in order, and these handles stand for them. -/
structure Tabled (entries : List (Job σ × Handle)) (s : Scheduler σ) : Prop where
  size : s.size = entries.length
  bodies : s.bodies = entries.map (·.1.body)
  names : s.names = entries.map (·.1.name)
  handles : entries.map (·.2) = (List.range s.size).map (⟨s.id, ·⟩)

/-- The tables and the books hold these jobs. -/
structure Holds (entries : List (Job σ × Handle)) (s : Scheduler σ) : Prop
    extends Tabled entries s where
  /-- Each job waits for what it names, and is waited for by who names it. -/
  books : ∀ (i : Nat) (job : Job σ) (h : Handle), entries[i]? = some (job, h) →
    ∃ e, s.books.jobs[i]? = some e ∧ e.state = .pending ∧
      e.outstanding = job.dependencies.length ∧
      ∀ (i' : Nat) (job' : Job σ) (h' : Handle), entries[i']? = some (job', h') →
        e.consumers.count i' = job'.dependencies.count h

/-! ## One scheduler -/

/-- The scheduler has taken in these jobs, each behind jobs of its own, and did not run yet. -/
structure Filed (entries : List (Job σ × Handle)) (s : Scheduler σ) : Prop
    extends Tabled entries s where
  unstarted : Unstarted (entries.map fun entry => entry.1.dependencies.map (·.index)) s
  home : ∀ entry ∈ entries, ∀ h ∈ entry.1.dependencies, h.scheduler = s.id

theorem Filed.create (id : Nat) (settings : RunSettings) :
    Filed [] (Scheduler.create id settings : Scheduler σ) where
  size := rfl
  bodies := rfl
  names := rfl
  handles := rfl
  unstarted := .create id settings
  home := by simp

theorem enqueue_names {job : Job σ} {h : Handle} (taken : s.enqueue job = (.ok h, s')) :
    s'.names = s.names ++ [job.name] := by
  rw [enqueue] at taken
  split at taken
  · cases taken
  · split at taken <;> cases taken
    rfl

/-- A job that names handles of the scheduler itself is taken in. -/
theorem Filed.enqueue_ok (filed : Filed entries s) (job : Job σ)
    (own : ∀ h ∈ job.dependencies, h.scheduler = s.id ∧ h.index < s.size) :
    ∃ s', s.enqueue job = (.ok ⟨s.id, s.size⟩, s') ∧ s'.id = s.id ∧
      Filed (entries ++ [(job, ⟨s.id, s.size⟩)]) s' := by
  obtain ⟨s', eq, id, size, bodies, unstarted⟩ := filed.unstarted.enqueue_ok job own
  refine ⟨s', eq, id, ⟨?_, ?_, ?_, ?_⟩, ?_, ?_⟩
  · rw [size, filed.size, List.length_append]
    rfl
  · rw [bodies, filed.bodies, List.map_append]
    rfl
  · rw [enqueue_names eq, filed.names, List.map_append]
    rfl
  · rw [List.map_append, filed.handles, size, id, List.range_succ, List.map_append]
    rfl
  · rwa [List.map_append]
  · rw [id]
    refine List.forall_mem_append.mpr ⟨filed.home, List.forall_mem_singleton.mpr fun h mem => ?_⟩
    exact (own h mem).1

/-- A handle that was issued stands for a job. -/
theorem Filed.issued {place : Nat} (filed : Filed (accepted calls place) s) {h : Handle}
    (issued : Issued calls place h) : h.scheduler = s.id ∧ h.index < s.size := by
  obtain ⟨call, mem, listedAt, answer⟩ := issued
  have listed : h ∈ (accepted calls place).map (·.2) := by
    refine List.mem_map.mpr ⟨(call.job, h), List.mem_filterMap.mpr ⟨call, mem, ?_⟩, rfl⟩
    rw [if_pos listedAt, answer]
    rfl
  rw [filed.handles] at listed
  obtain ⟨index, inRange, rfl⟩ := List.mem_map.mp listed
  exact ⟨rfl, List.mem_range.mp inRange⟩

theorem count_index {id i : Nat} {handles : List Handle} (home : ∀ h ∈ handles, h.scheduler = id) :
    (handles.map (·.index)).count i = handles.count ⟨id, i⟩ := by
  rw [List.count, List.count, List.countP_map]
  refine List.countP_congr fun h mem => ?_
  obtain ⟨scheduler, index⟩ := h
  have same : scheduler = id := home _ mem
  simp [same]

/-- The handle of a job has its place in the tables. -/
theorem Tabled.handle_at (tabled : Tabled entries s) {i : Nat} {job : Job σ} {h : Handle}
    (listedAt : entries[i]? = some (job, h)) : i < s.size ∧ h = ⟨s.id, i⟩ := by
  have inRange : i < s.size := tabled.size ▸ (List.getElem?_eq_some_iff.mp listedAt).1
  have listed := congrArg (·[i]?) tabled.handles
  simp only [List.getElem?_map, listedAt, List.getElem?_range inRange] at listed
  exact ⟨inRange, Option.some.inj listed⟩

theorem Filed.holds (filed : Filed entries s) : s.Holds entries where
  toTabled := filed.toTabled
  books := by
    have tied := filed.unstarted.sound.tied
    have pending {i : Nat} {e : Entry} (found : s.books.jobs[i]? = some e) : e.state = .pending :=
      filed.unstarted.pending i _ (Books.stateOf_eq found)
    have deps {i : Nat} {job : Job σ} {h : Handle} (listedAt : entries[i]? = some (job, h)) :
        (entries.map fun entry => entry.1.dependencies.map (·.index))[i]?.getD [] =
          job.dependencies.map (·.index) := by
      rw [List.getElem?_map, listedAt]
      rfl
    intro i job h listedAt
    obtain ⟨inRange, handle⟩ := filed.handle_at listedAt
    have found := List.getElem?_eq_getElem inRange
    refine ⟨_, found, pending found, ?_, fun i' job' h' listedAt' => ?_⟩
    · rw [tied.outstanding_eq filed.unstarted.halted found, deps listedAt,
        List.countP_eq_length.mpr, List.length_map]
      intro d named
      have known := List.getElem?_eq_getElem (tied.lt_length inRange ((deps listedAt).symm ▸ named))
      rw [Books.isOpen_eq known, pending known]
      rfl
    · rw [tied.consumers i _ found (by rw [pending found]; rfl), deps listedAt', handle,
        count_index (filed.home _ (List.mem_of_getElem? listedAt'))]

/-! ## Several schedulers -/

/-- Each scheduler has its id and the jobs that it has taken in. -/
structure Tended (created : List (Nat × RunSettings)) (pool : List (Scheduler σ))
    (calls : List (Enqueueing σ)) : Prop where
  ids : ∀ place : Nat, pool[place]?.map (·.id) = created[place]?.map (·.1)
  filed : ∀ (place : Nat) (s : Scheduler σ), pool[place]? = some s →
    Filed (accepted calls place) s
  placed : ∀ call ∈ calls, ∃ s, pool[call.place]? = some s

variable {created : List (Nat × RunSettings)} {pool : List (Scheduler σ)}

theorem Tended.create (created : List (Nat × RunSettings)) :
    Tended created (created.map fun c => Scheduler.create c.1 c.2 : List (Scheduler σ)) [] where
  ids place := by
    rw [List.getElem?_map, Option.map_map]
    rfl
  filed := by
    intro place s listedAt
    rw [List.getElem?_map, Option.map_eq_some_iff] at listedAt
    obtain ⟨c, _, rfl⟩ := listedAt
    exact .create c.1 c.2
  placed := by simp

/-- Schedulers at different places have different ids. -/
theorem Tended.place_unique (tended : Tended created pool calls)
    (distinct : (created.map (·.1)).Nodup) {place place' : Nat} (listedAt : pool[place]? = some s)
    (listedAt' : pool[place']? = some s') (same : s.id = s'.id) : place = place' := by
  have id := tended.ids place
  have id' := tended.ids place'
  rw [listedAt, Option.map_some, ← List.getElem?_map] at id
  rw [listedAt', Option.map_some, ← same, ← List.getElem?_map] at id'
  exact (List.getElem?_inj (List.getElem?_eq_some_iff.mp id.symm).1 distinct).mp
    (id.symm.trans id')

/-- A job is refused, and its scheduler left as it is, just where it names a handle of another
one. -/
theorem Tended.enqueue_cases (tended : Tended created pool calls)
    (distinct : (created.map (·.1)).Nodup) {place : Nat} (listedAt : pool[place]? = some s)
    {job : Job σ} (issued : ∀ h ∈ job.dependencies, ∃ issuer, Issued calls issuer h) :
    (Foreign calls place job ∧ s.enqueue job = (.error .foreignHandle, s)) ∨
      (¬ Foreign calls place job ∧ ∃ s', s.enqueue job = (.ok ⟨s.id, s.size⟩, s') ∧ s'.id = s.id ∧
        Filed (accepted calls place ++ [(job, ⟨s.id, s.size⟩)]) s') := by
  have filed := tended.filed place s listedAt
  by_cases foreign : Foreign calls place job
  · refine .inl ⟨foreign, enqueue_foreign fun home => ?_⟩
    obtain ⟨h, named, issuer, other, issued⟩ := foreign
    obtain ⟨s', listedAt'⟩ : ∃ s', pool[issuer]? = some s' := by
      obtain ⟨call, mem, rfl, _⟩ := issued
      exact tended.placed call mem
    have theirs := ((tended.filed issuer s' listedAt').issued issued).1
    exact other (tended.place_unique distinct listedAt' listedAt (theirs.symm.trans (home h named)))
  · refine .inr ⟨foreign, filed.enqueue_ok job fun h named => ?_⟩
    obtain ⟨issuer, issued⟩ := issued h named
    by_cases own : issuer = place
    · exact filed.issued (own ▸ issued)
    · exact absurd ⟨h, named, issuer, own, issued⟩ foreign

theorem accepted_concat (calls : List (Enqueueing σ)) (call : Enqueueing σ) (place : Nat) :
    accepted (calls ++ [call]) place = accepted calls place ++
      if call.place = place then (call.answer.toOption.map (call.job, ·)).toList else [] := by
  rw [accepted, accepted, List.filterMap_append]
  split
  · rename_i here
    cases answer : call.answer <;> simp [here, answer, Except.toOption]
  · rename_i other
    simp [other]

/-- One scheduler was called and has the job among its own, if it was taken in. -/
theorem Tended.called (tended : Tended created pool calls) (call : Enqueueing σ)
    (listedAt : pool[call.place]? = some s) (id : s'.id = s.id)
    (filed : Filed (accepted (calls ++ [call]) call.place) s') :
    Tended created (pool.set call.place s') (calls ++ [call]) := by
  have inRange := (List.getElem?_eq_some_iff.mp listedAt).1
  have here : (pool.set call.place s')[call.place]? = some s' := List.getElem?_set_self inRange
  have elsewhere {place : Nat} (ne : call.place ≠ place) :
      (pool.set call.place s')[place]? = pool[place]? := List.getElem?_set_ne ne
  constructor
  case ids =>
    intro place
    rw [← tended.ids place]
    by_cases same : call.place = place
    · rw [← same, here, listedAt, Option.map_some, Option.map_some, id]
    · rw [elsewhere same]
  case filed =>
    intro place s₁ at₁
    by_cases same : call.place = place
    · rw [← same, here, Option.some.injEq] at at₁
      exact same ▸ at₁ ▸ filed
    · rw [elsewhere same] at at₁
      rw [accepted_concat, if_neg same, List.append_nil]
      exact tended.filed place s₁ at₁
  case placed =>
    intro earlier mem
    have before : ∃ s, pool[earlier.place]? = some s := by
      rcases List.mem_append.mp mem with old | new
      · exact tended.placed earlier old
      · exact ⟨s, by rw [List.mem_singleton.mp new, listedAt]⟩
    obtain ⟨s₁, at₁⟩ := before
    exact ⟨_, List.getElem?_eq_getElem
      ((List.length_set ..).symm ▸ (List.getElem?_eq_some_iff.mp at₁).1)⟩

theorem Pool.tended (made : Pool created pool calls) (distinct : (created.map (·.1)).Nodup) :
    Tended created pool calls := by
  induction made with
  | create => exact .create created
  | @enqueue pool calls place s job _ listedAt issued tended =>
    rcases tended.enqueue_cases distinct listedAt issued with ⟨_, eq⟩ | ⟨_, s', eq, id, filed⟩
    · rw [eq]
      refine tended.called ⟨place, job, _⟩ listedAt rfl ?_
      rw [accepted_concat, if_pos rfl]
      exact (List.append_nil _).symm ▸ tended.filed place s listedAt
    · rw [eq]
      refine tended.called ⟨place, job, _⟩ listedAt id ?_
      rw [accepted_concat, if_pos rfl]
      exact filed

end Scheduler

/-! ## A run -/

namespace Machine

variable {σ : Type} {start m m' : Machine σ}

/-- A body that is fresh was fresh before, and its job is not started in this move. -/
theorem Move.fresh (move : Move m m') {i : Nat} {body : JobBody σ}
    (slot : m'.slots[i]? = some (.fresh body)) : m.slots[i]? = some (.fresh body) ∧
      (.started i ∈ m'.timeline → .started i ∈ m.timeline) := by
  cases move with
  | quiet quiet =>
    refine ⟨?_, fun started => ?_⟩
    · rcases quiet.slot i with same | ⟨old, new, _, after, moved, _⟩
      · exact same ▸ slot
      · rw [slot, Option.some.injEq] at after
        subst after
        cases moved
    · cases quiet with
      | turned | rested | passed | arrived | passedOver | noticed | waited | forgone => exact started
      | sampled =>
        unfold sample at started
        split at started <;> exact started
      | woken job =>
        unfold wake at started
        split at started <;> exact started
      | @dispatched books job first next found =>
        rcases List.mem_append.mp started with before | now
        · exact before
        · obtain rfl : i = job := Moment.started.inj (List.mem_singleton.mp now)
          rw [slot_set_self (m := m) found rfl] at slot
          cases slot
      | recorded => simpa using started
  | @polled job rest running polls =>
    refine ⟨?_, fun started => (m.ranOn_records job rest running).2.2.1 ▸ started⟩
    by_cases same : i = job
    · subst same
      obtain ⟨new, after, moved⟩ := polls.slot_after
      rw [slot, Option.some.injEq] at after
      subst after
      cases moved
    · rwa [slot_set_ne (m.ranOn_slots job rest running) same] at slot

/-- A body that is fresh was so at the start, and its job did not start since. -/
theorem Reaches.fresh (reached : Reaches start m) {i : Nat} {body : JobBody σ}
    (slot : m.slots[i]? = some (.fresh body)) : start.slots[i]? = some (.fresh body) ∧
      (.started i ∈ m.timeline → .started i ∈ start.timeline) := by
  induction reached with
  | refl => exact ⟨slot, id⟩
  | tail _ move ih =>
    obtain ⟨before, untold⟩ := move.fresh slot
    obtain ⟨first, told⟩ := ih before
    exact ⟨first, told ∘ untold⟩

/-- The body of a job that may start is there, as it was at the start, and did not start since. -/
theorem Kept.finds_body {deps : List (List Nat)} (kept : Kept deps start)
    (reached : Reaches start m) {i : Nat} {books : Books}
    (next : m.books.nextDispatch = .ok (some i, books)) :
    ∃ body, start.slots[i]? = some (.fresh body) ∧ m.slots[i]? = some (.fresh body) ∧
      (.started i ∈ m.timeline → .started i ∈ start.timeline) := by
  have kept' := kept.reaches reached
  have begins := (kept'.sound.answered next).begins i rfl
  obtain ⟨body, slot⟩ := kept'.fresh i begins.pending
  obtain ⟨first, told⟩ := reached.fresh slot
  exact ⟨body, first, slot, told⟩

end Machine

namespace Scheduler

variable {σ : Type} {s : Scheduler σ} {entries : List (Job σ × Handle)}

/-- Each index that the books give out in a run of the scheduler is that of a job whose body is
still there, and was not given out before. -/
def FindsBodies (entries : List (Job σ × Handle)) (s : Scheduler σ) : Prop :=
  ∀ (c : Conditions σ) (shared : σ) (m : Machine σ), Machine.Reaches (s.start c shared) m →
    ∀ (i : Nat) (books : Books), m.books.nextDispatch = .ok (some i, books) →
      .started i ∉ m.timeline ∧
        ∃ job h, entries[i]? = some (job, h) ∧ m.slots[i]? = some (.fresh job.body)

theorem Filed.findsBodies (filed : Filed entries s) : FindsBodies entries s := by
  intro c shared m reached i books next
  obtain ⟨body, first, slot, told⟩ := (filed.unstarted.kept c shared).finds_body reached next
  refine ⟨fun started => List.not_mem_nil (told started), ?_⟩
  have bodies : (s.start c shared).slots = s.bodies.map .fresh := rfl
  rw [bodies, filed.bodies, List.getElem?_map, List.getElem?_map, Option.map_map,
    Option.map_eq_some_iff] at first
  obtain ⟨⟨job, h⟩, listedAt, same⟩ := first
  exact ⟨job, h, listedAt, by rw [slot, ← same]; rfl⟩

/-- A call to `enqueue` on one of several schedulers with different ids, with a job that names
handles issued by any of them, is refused just where one of the handles was issued by another
scheduler, and then changes nothing; else it is answered with the next index. The books and the
tables hold the jobs that were taken in, in order, and in a run each index that the books give out
finds its body once. -/
theorem enqueue_is_atomic {created : List (Nat × RunSettings)} {pool : List (Scheduler σ)}
    {calls : List (Enqueueing σ)} (distinct : (created.map (·.1)).Nodup)
    (made : Pool created pool calls) (place : Nat) (listedAt : pool[place]? = some s) (job : Job σ)
    (issued : ∀ h ∈ job.dependencies, ∃ issuer, Issued calls issuer h) :
    s.Holds (accepted calls place) ∧ FindsBodies (accepted calls place) s ∧
      ((Foreign calls place job ∧ s.enqueue job = (.error .foreignHandle, s)) ∨
        (¬ Foreign calls place job ∧ ∃ s', s.enqueue job = (.ok ⟨s.id, s.size⟩, s') ∧
          s'.Holds (accepted calls place ++ [(job, ⟨s.id, s.size⟩)]))) := by
  have tended := made.tended distinct
  have filed := tended.filed place s listedAt
  refine ⟨filed.holds, filed.findsBodies, ?_⟩
  refine (tended.enqueue_cases distinct listedAt issued).imp_right ?_
  rintro ⟨home, s', eq, _, filed'⟩
  exact ⟨home, s', eq, filed'.holds⟩

/-- A job behind the first one of the scheduler with the id 1. -/
def behindFirst : Job Unit where
  dependencies := [⟨1, 0⟩]
  body := .done (.returned .done)

/-- Two schedulers, the first with one job: the second refuses a job behind that one, the first
takes it in. -/
theorem enqueue_is_atomic_two :
    ∃ (pool : List (Scheduler Unit)) (calls : List (Enqueueing Unit))
      (first second : Scheduler Unit),
      (([(1, {}), (2, {})] : List (Nat × RunSettings)).map (·.1)).Nodup ∧
      Pool [(1, {}), (2, {})] pool calls ∧ pool[0]? = some first ∧ pool[1]? = some second ∧
      second.enqueue behindFirst = (.error .foreignHandle, second) ∧
      ∃ s', first.enqueue behindFirst = (.ok ⟨1, 1⟩, s') := by
  have distinct : (([(1, {}), (2, {})] : List (Nat × RunSettings)).map (·.1)).Nodup := by decide
  have made : Pool (σ := Unit) [(1, {}), (2, {})] _ _ :=
    @Pool.enqueue Unit _ _ _ 0 _ { body := .done (.returned .done) } .create rfl (by simp)
  have first : Issued (σ := Unit) [⟨0, { body := .done (.returned .done) }, .ok ⟨1, 0⟩⟩] 0 ⟨1, 0⟩ :=
    ⟨_, List.mem_singleton_self _, rfl, rfl⟩
  have issued : ∀ h ∈ behindFirst.dependencies, ∃ issuer, Issued
      [⟨0, { body := .done (.returned .done) }, .ok ⟨1, 0⟩⟩] issuer h :=
    List.forall_mem_singleton.mpr ⟨0, first⟩
  refine ⟨_, _, _, _, distinct, made, rfl, rfl, ?_, ?_⟩
  · rcases (enqueue_is_atomic distinct made 1 rfl behindFirst issued).2.2 with
      ⟨_, refused⟩ | ⟨own, _⟩
    · exact refused
    · exact absurd ⟨⟨1, 0⟩, List.mem_singleton_self _, 0, by decide, first⟩ own
  · rcases (enqueue_is_atomic distinct made 0 rfl behindFirst issued).2.2 with
      ⟨⟨h, _, issuer, other, call, mem, place, _⟩, _⟩ | ⟨_, s', taken, _⟩
    · rw [List.mem_singleton.mp mem] at place
      exact absurd place.symm other
    · exact ⟨s', taken⟩

end Scheduler

end KeyFlow
