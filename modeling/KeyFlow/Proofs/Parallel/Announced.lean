import KeyFlow.Proofs.Parallel.Result
import KeyFlow.Proofs.Parallel.Speech

/-!
What a run of independent units tells. Each unit is told of by its own jobs while the run goes on,
and once more when it is over.
-/

namespace KeyFlow

/-- Where each element of a list has an image that fits it, these are the images of the elements. -/
theorem forall₂_filterMap {α β : Type} {R : α → β → Prop} {f : α → Option β} {l : List α}
    (all : ∀ a ∈ l, ∃ b, f a = some b ∧ R a b) : List.Forall₂ R l (l.filterMap f) := by
  induction l with
  | nil => exact .nil
  | cons a l ih =>
    obtain ⟨⟨b, found, fits⟩, rest⟩ := List.forall_mem_cons.mp all
    rw [List.filterMap_cons_some found]
    exact .cons fits (ih rest)

/-- What is told of a task in some order are its events in that order. -/
theorem events_of_perm {task : String} {events : List TaskEvent} {hs : List Happening}
    (perm : hs.Perm (Lifecycle.ofTask task events)) :
    ∃ events' : List TaskEvent, hs = Lifecycle.ofTask task events' ∧ events'.Perm events := by
  let event? : Happening → Option TaskEvent
    | .task _ e => some e
    | _ => none
  have back : (Lifecycle.ofTask task events).filterMap event? = events := by
    rw [Lifecycle.ofTask, List.filterMap_map]
    exact List.filterMap_some
  refine ⟨hs.filterMap event?, ?_, back ▸ perm.filterMap event?⟩
  have same : hs.filterMap (fun h => (event? h).map (Happening.task task)) =
      hs.filterMap some := by
    refine List.filterMap_congr fun h mem => ?_
    obtain ⟨e, _, rfl⟩ := List.mem_map.mp (perm.mem_iff.mp mem)
    rfl
  rw [Lifecycle.ofTask, List.map_filterMap, same, List.filterMap_some]

namespace Parallel

variable {p : Parallel} {i first job : Nat} {u : WorkUnit} {part : UnitPart}

theorem lt_of_placed {q : WorkUnit × Nat} (found : p.placed[i]? = some q) :
    i < p.units.length := by
  have within := (List.getElem?_eq_some_iff.mp found).1
  rwa [← List.length_map, placed, WorkUnit.placed_units] at within

/-- The unit that a job belongs to. -/
def unitOf? (p : Parallel) (job : Nat) : Option Nat :=
  p.placed.findIdx? fun q => decide (job ∈ q.1.places q.2)

theorem unitOf?_eq_some_iff (placed : p.placed[i]? = some (u, first)) :
    p.unitOf? job = some i ↔ job ∈ u.places first := by
  obtain ⟨within, is⟩ := List.getElem?_eq_some_iff.mp placed
  rw [unitOf?, List.findIdx?_eq_some_iff_getElem]
  constructor
  · rintro ⟨_, here, _⟩
    rw [is] at here
    exact of_decide_eq_true here
  · intro here
    refine ⟨within, by rw [is]; exact decide_eq_true here, fun j before there => ?_⟩
    have known : j < p.placed.length := Nat.lt_trans before within
    have apart : p.placed[j].2 + (p.placed[j].1.parts p.placed[j].2).length ≤ p.placed[i].2 :=
      List.pairwise_iff_getElem.mp (WorkUnit.placed_pairwise p.units 0) j i known within before
    rw [is] at apart
    have after := (WorkUnit.mem_places.mp (of_decide_eq_true there)).2
    have le := (WorkUnit.mem_places.mp here).1
    exact absurd (Nat.lt_of_lt_of_le after (Nat.le_trans apart le)) (Nat.lt_irrefl _)

/-- The jobs of a unit have their numbers. -/
theorem part_at (placed : p.placed[i]? = some (u, first)) (mem : (part, job) ∈ u.numbered first) :
    p.parts[job]? = some part ∧ part ∈ u.parts first := by
  obtain ⟨le, found⟩ := List.mk_mem_zipIdx_iff_le_and_getElem?_sub.mp mem
  have within := (List.getElem?_eq_some_iff.mp found).1
  have there := WorkUnit.parts_at (List.mem_of_getElem? placed) within
  rw [found, Nat.sub_zero, Nat.add_sub_cancel' le] at there
  exact ⟨there, List.mem_of_getElem? found⟩

/-- What is told when all jobs are over, and of which unit. -/
def summing (p : Parallel) (r : Report Sinks) : List (Option Nat × Happening) :=
  p.placed.zipIdx.flatMap fun q =>
    (Lifecycle.ofTask q.1.1.name
      (q.1.1.afterwards ((handles q.1).2.filterMap r.stateOf))).map (some q.2, ·)

theorem summing_closing (p : Parallel) (r : Report Sinks) :
    (p.summing r).map (·.2) = closing (p.placed.map handles) r := by
  rw [summing, closing, List.map_flatMap, List.flatMap_map, ← List.zipIdx_map_fst 0 p.placed,
    List.flatMap_map, List.zipIdx_map_fst]
  refine List.flatMap_congr fun q _ => ?_
  rw [List.map_map]
  exact List.map_id' _

/-- What is told in the end is told of units only. -/
theorem mem_summing {r : Report Sinks} {who : Option Nat} {h : Happening}
    (mem : (who, h) ∈ p.summing r) : ∃ i < p.units.length, who = some i := by
  obtain ⟨⟨q, i⟩, listed, said⟩ := List.mem_flatMap.mp mem
  obtain ⟨_, _, is⟩ := List.mem_map.mp said
  cases is
  exact ⟨i, lt_of_placed (List.mem_zipIdx_iff_getElem?.mp listed), rfl⟩

/-- The states that a report has for the jobs of a unit. -/
theorem handles_states (q : WorkUnit × Nat) (last : Machine Sinks) :
    (handles q).2.filterMap (Scheduler.report 0 last).stateOf =
      (q.1.places q.2).filterMap last.books.stateOf := by
  rw [handles, List.filterMap_map]
  exact List.filterMap_congr fun job _ => Scheduler.report_stateOf 0 job last

theorem spokenBy_summing (placed : p.placed[i]? = some (u, first)) (last : Machine Sinks) :
    spokenBy (some i) (p.summing (Scheduler.report 0 last)) =
      Lifecycle.ofTask u.name
        (u.afterwards ((u.places first).filterMap last.books.stateOf)) := by
  rw [summing, spokenBy_zipIdx, if_pos (Nat.zero_le i), Nat.sub_zero, placed, Option.map_some,
    Option.getD_some, handles_states]

namespace Launched

variable {start last : Machine Sinks} {ends : List (Nat × Conclusion)}
  {opening : List Happening} {told : List (Option Nat × Happening)}

/-- The states of a unit's jobs. -/
theorem states (launched : p.Launched start)
    (rests : Machine.Rests (p.parts.map (·.after)) start last ends)
    (placed : p.placed[i]? = some (u, first)) :
    List.Forall₂ (fun q state => last.books.stateOf q.2 = some state ∧
        q.1.Fares (q.1.cameTo start q.2) state) (u.numbered first)
      ((u.places first).filterMap last.books.stateOf) := by
  rw [← u.numbered_places, List.filterMap_map]
  refine forall₂_filterMap fun q mem => ?_
  obtain ⟨state, at_last, fares, _⟩ := launched.fares rests (part_at placed mem).1
  exact ⟨state, at_last, at_last, fares⟩

/-- What the jobs of a unit have told, each for itself. -/
theorem spoken_each (launched : p.Launched start)
    (rests : Machine.Rests (p.parts.map (·.after)) start last ends)
    (spoken : Machine.Spoken p.tell id (p.speech start) start last told)
    (placed : p.placed[i]? = some (u, first)) :
    ((u.places first).map some).flatMap (spokenBy · told) =
      Lifecycle.ofTask u.name ((u.numbered first).flatMap fun q => q.1.told start q.2) := by
  rw [← u.numbered_places, List.map_map, List.flatMap_map, Lifecycle.ofTask, List.map_flatMap]
  refine List.flatMap_congr fun q mem => ?_
  obtain ⟨there, listed⟩ := part_at placed mem
  rw [← (WorkUnit.unit_of_parts listed).1]
  exact launched.spoken_at rests spoken there

/-- The jobs of a slice or a map have told of the failures among them. -/
theorem spoken_faults (launched : p.Launched start)
    (rests : Machine.Rests (p.parts.map (·.after)) start last ends)
    (spoken : Machine.Spoken p.tell id (p.speech start) start last told)
    (placed : p.placed[i]? = some (u, first)) (fan : u.isFanOut = true) :
    ∃ failing : List TaskEvent, failing.Perm (u.faults start first) ∧
      spokenAmong ((u.places first).map some) told = Lifecycle.ofTask u.name failing := by
  have once : ((u.places first).map some).Nodup :=
    (List.nodup_range' ..).map (Option.some_injective Nat)
  have faults : (u.numbered first).flatMap (fun q => q.1.told start q.2) =
      u.faults start first := by
    rw [WorkUnit.faults, List.filterMap_eq_flatMap_toList]
    refine List.flatMap_congr fun q mem => ?_
    have apart := (WorkUnit.unit_of_parts (part_at placed mem).2).2
    rw [fan] at apart
    exact UnitPart.told_of_part apart start q.2
  -- The jobs told their faults as they ended, so the order is not that of their numbers.
  have perm : (spokenAmong ((u.places first).map some) told).Perm _ := spokenAmong_perm once
  rw [launched.spoken_each rests spoken placed, faults] at perm
  obtain ⟨failing, lines, each⟩ := events_of_perm perm
  exact ⟨failing, each, lines⟩

/-- What the jobs of a unit have told together. -/
theorem spokenBy_unit (placed : p.placed[i]? = some (u, first)) :
    spokenBy (some i) (told.map fun e => (e.1.bind p.unitOf?, e.2)) =
      spokenAmong ((u.places first).map some) told := by
  refine spokenBy_taken (fun who : Option Nat => who.bind p.unitOf?) fun other => ?_
  cases other with
  | none => simp
  | some job => simp [unitOf?_eq_some_iff placed]

/-- What is told of a unit. -/
theorem reports (launched : p.Launched start)
    (rests : Machine.Rests (p.parts.map (·.after)) start last ends)
    (spoken : Machine.Spoken p.tell id (p.speech start) start last told)
    (placed : p.placed[i]? = some (u, first)) :
    ∃ events, u.Reports start first
        ((u.places first).filterMap last.books.stateOf) events ∧
      spokenBy (some i) (gathered opening p.unitOf? told (p.summing (Scheduler.report 0 last))) =
        Lifecycle.ofTask u.name events := by
  have states := launched.states rests placed
  have terminal (state : JobState) (mem : state ∈ (u.places first).filterMap last.books.stateOf) :
      state.isTerminal = true := by
    obtain ⟨job, _, found⟩ := List.mem_filterMap.mp mem
    exact rests.terminal job state found
  rw [spokenBy_gathered, spokenBy_summing placed, spokenBy_unit placed]
  generalize (u.places first).filterMap last.books.stateOf = ends at states terminal
  cases u with
  | task name body =>
    let part : UnitPart := ⟨name, name, true, body first, []⟩
    obtain ⟨state, _, ⟨_, fares⟩, noStates, rfl⟩ := List.forall₂_cons_left_iff.mp
      (show List.Forall₂ _ [(part, first)] ends from states)
    cases noStates
    have at_part : p.parts[first]? = some part :=
      (part_at placed (List.mem_singleton_self _)).1
    have sum : (WorkUnit.task name body).afterwards [state] =
        (state.skipCause.map TaskEvent.skipped).toList := by
      cases state <;> rfl
    refine ⟨_, .task name body part state _ rfl rfl (fares.reports rfl), ?_⟩
    rw [show (WorkUnit.task name body).places first = [first] from rfl, List.map_singleton,
      spokenAmong_singleton, launched.spoken_at rests spoken at_part, sum]
    exact (List.map_append ..).symm
  | fanOut name items finish =>
    obtain ⟨failing, each, lines⟩ := launched.spoken_faults rests spoken placed rfl
    refine ⟨_, .fanOut name items finish failing _ each
      (WorkUnit.summary_afterwards (u := .fanOut name items finish) rfl terminal), ?_⟩
    rw [lines]
    exact (List.map_append ..).symm

/-- Every job that tells something belongs to a unit. -/
theorem unit_of_told
    (spoken : Machine.Spoken p.tell id (p.speech start) start last told) {h : Happening}
    (mem : (some job, h) ∈ told) : ∃ i < p.units.length, p.unitOf? job = some i := by
  have said := spoken.mem_speech mem
  rw [speech] at said
  cases placed : p.parts[job]? with
  | none =>
    rw [placed] at said
    cases said
  | some part =>
    obtain ⟨q, listed, place, _⟩ := WorkUnit.unit_of_part placed
    obtain ⟨i, found⟩ := List.mem_iff_getElem?.mp listed
    rw [Nat.zero_add] at place
    exact ⟨i, lt_of_placed found, (unitOf?_eq_some_iff found).mpr place⟩

end Launched

/-- What the run of the units tells between its beginning and its end. -/
theorem Launched.told_of_run {q : Scheduler Sinks} {token : Token} {sinks : Sinks}
    {last : Machine Sinks} (launched : p.Launched (p.start q token sinks))
    (run : (p.start q token sinks).run = .finished last) :
    ∃ told : List (Option Nat × Happening),
      Sinks.Heard p.tell sinks (.flowInit :: told.map (·.2))
        (Lifecycle.tellAll p.tell (closing (p.placed.map handles) (Scheduler.report 0 last))
          last.shared) ∧
      (∀ h, (none, h) ∈ told → h.IsAside) ∧
      (∀ i h, (some i, h) ∈ told → i < p.units.length) ∧
      ∀ i u first, p.placed[i]? = some (u, first) →
        List.Forall₂ (fun q' state => last.books.stateOf q'.2 = some state ∧
          q'.1.Fares (q'.1.cameTo (p.start q token sinks) q'.2) state) (u.numbered first)
          ((u.places first).filterMap last.books.stateOf) ∧
        ∃ events, u.Reports (p.start q token sinks) first
            ((u.places first).filterMap last.books.stateOf) events ∧
          spokenBy (some i) told = Lifecycle.ofTask u.name events := by
  obtain ⟨ends, rests⟩ := launched.kept.rests launched.told run
  have unspent (job : Nat) : (p.start q token sinks).slots[job]? ≠ some .spent := by
    rw [launched.slots]
    cases p.parts[job]? <;> nofun
  obtain ⟨told, spoken⟩ :=
    Machine.spoken_of_run launched.kept run launched.samples launched.speaks unspent
  let opening : List Happening := .schedulerInit :: p.units.map fun u => .taskInit u.name
  have before : ∀ h ∈ opening, h.IsAside := by
    intro h mem
    rcases List.mem_cons.mp mem with rfl | init
    · trivial
    · obtain ⟨_, _, rfl⟩ := List.mem_map.mp init
      trivial
  have grouped : Grouped p.unitOf? p.units.length told (p.summing (Scheduler.report 0 last)) :=
    ⟨fun _ _ => unit_of_told spoken, fun _ => spoken.aside, fun _ _ => mem_summing⟩
  refine ⟨gathered opening p.unitOf? told (p.summing (Scheduler.report 0 last)), ?_,
    fun h => grouped.isAside before, fun i h => grouped.lt, fun i u first found =>
      ⟨launched.states rests found, launched.reports rests spoken found⟩⟩
  have first : Sinks.Heard p.tell sinks (.flowInit :: opening)
      (p.start q token sinks).shared := .all p.prelude
  have whole := (first.trans spoken.heard).trans
    (.all (closing (p.placed.map handles) (Scheduler.report 0 last)))
  rw [gathered_lines, summing_closing]
  exact whole

/-- In every run of units that were built, whatever their bodies do and however it is cancelled:
what is told starts with the beginning and ends with the verdict and the end, and a recorder hears
all of it that it wants. In between each unit is told of once. A task is reported as its body came
out or as its job was skipped; of a slice or a map each failure is told, and the whole only if there
was none. Unless a body waits for a cancellation, the run is reported. -/
theorem units_are_reported (s : ParallelSpec) (p : Parallel) (built : s.build = .ok p)
    (token : Token) (sinks : Sinks) :
    (∀ r, p.run token sinks = .reported r → ∃ told : List (Option Nat × Happening),
      Sinks.Heard p.tell sinks
        (.flowInit :: told.map (·.2) ++ [Lifecycle.verdict r.result, .flowDone]) r.sinks ∧
      (∀ name samples, p.emitter.Records name samples →
        r.sinks.heardBy name p.name = sinks.heardBy name p.name ++
          (.flowInit :: told.map (·.2) ++ [Lifecycle.verdict r.result, .flowDone]).filter
            (Emitter.wants samples)) ∧
      (∀ h, (none, h) ∈ told → h.IsAside) ∧
      (∀ i h, (some i, h) ∈ told → i < s.units.length) ∧
      ∃ q last report, p.jobs = .ok (p.placed.map handles, q) ∧
        (p.start q token sinks).run = .finished last ∧ r.jobs = some report ∧
        report = Scheduler.report q.id last ∧
        ∀ i d, s.units[i]? = some d → ∃ u first states events,
          d.unit? = some u ∧ p.placed[i]? = some (u, first) ∧
          List.Forall₂ (fun part state => report.states[part.2]? = some state ∧
            part.1.Fares (part.1.cameTo (p.start q token sinks) part.2) state)
            (u.numbered first) states ∧
          u.Reports (p.start q token sinks) first states events ∧
          spokenBy (some i) told = Lifecycle.ofTask u.name events) ∧
    ((∀ part ∈ p.parts, part.body.Unwaiting) → ∃ r, p.run token sinks = .reported r) := by
  refine ⟨fun r run => ?_, p.run_reported token sinks⟩
  obtain ⟨q, last, _, jobs, id, launched, finished, rfl, ran, _, rested⟩ := run_cases run
  obtain ⟨told, heard, aside, known, reports⟩ := launched.told_of_run finished
  rw [id] at rested
  have whole : Sinks.Heard p.tell sinks
      (.flowInit :: told.map (·.2) ++ [Lifecycle.verdict r.result, .flowDone]) r.sinks := by
    rw [rested]
    exact heard.trans (.all [Lifecycle.verdict r.result, .flowDone])
  have declared := ParallelSpec.units_of_build built
  have length : p.units.length = s.units.length := by
    rw [← List.length_map (f := some), declared, List.length_map]
  refine ⟨told, whole, fun name samples records => records.heardBy whole, aside,
    fun i h mem => length ▸ known i h mem, q, last, _, jobs, finished, ran, rfl,
    fun i d placed => ?_⟩
  have unit : (p.units.map some)[i]? = some d.unit? := by
    rw [declared, List.getElem?_map, placed]
    rfl
  rw [← WorkUnit.placed_units p.units 0, List.map_map, List.getElem?_map] at unit
  obtain ⟨⟨u, first⟩, found, is⟩ := Option.map_eq_some_iff.mp unit
  obtain ⟨states, events, reported, lines⟩ := reports i u first found
  exact ⟨u, first, _, events, is.symm, found,
    states.imp fun _ _ fits => ⟨(Books.getElem?_states ..).trans fits.1, fits.2⟩, reported, lines⟩

/-- The pair tells how its slice of one element went. -/
theorem units_are_reported_pair :
    pairSpec.build = .ok pair ∧ ∃ r told q last report u first states events,
      pair.run {} {} = .reported r ∧
      Sinks.Heard pair.tell {}
        (.flowInit :: told.map (·.2) ++ [Lifecycle.verdict r.result, .flowDone]) r.sinks ∧
      pair.jobs = .ok (pair.placed.map handles, q) ∧
      (pair.start q {} {}).run = .finished last ∧ r.jobs = some report ∧
      report = Scheduler.report q.id last ∧
      pair.units[1]? = some u ∧ pair.placed[1]? = some (u, first) ∧
      List.Forall₂ (fun part state => report.states[part.2]? = some state ∧
        part.1.Fares (part.1.cameTo (pair.start q {} {}) part.2) state)
        (u.numbered first) states ∧
      u.Reports (pair.start q {} {}) first states events ∧
      spokenBy (some 1) told = Lifecycle.ofTask u.name events := by
  have holds := units_are_reported pairSpec pair rfl {} {}
  obtain ⟨r, run⟩ := holds.2 pair_unwaiting
  obtain ⟨told, heard, _, _, _, q, last, report, jobs, finished, ran, same, all⟩ := holds.1 r run
  obtain ⟨u, first, states, events, is, found, fits, reports, lines⟩ := all 1 _ rfl
  exact ⟨rfl, r, told, q, last, report, u, first, states, events, run, heard, jobs, finished, ran,
    same, is, found, fits, reports, lines⟩

end Parallel

end KeyFlow
