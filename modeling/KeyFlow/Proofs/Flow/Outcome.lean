import KeyFlow.Proofs.Flow.Opened

/-!
What the jobs of a flow come to in a run that finishes. The job of a task was skipped before it had
a turn, or its act has ended; then its state, what it left in the store and what it told are those
of one finale.
-/

namespace KeyFlow

namespace FlowUnit

variable (u : FlowUnit)

/-- What the first part of the task's job came to in the run that starts here. -/
def cameTo (start : Machine FlowState) (job : Nat) : Option Act :=
  (u.act.replay (start.turns job)).map (·.1)

/-- How the check of the predicate ended in the run that starts here. -/
def checkedTo (gate : Gate) (start : Machine FlowState) (job : Nat) : Option (Ending Bool) :=
  u.work.check.bind fun check => ((u.checking gate check).replay (start.turns job)).map (·.1.2)

/-- What went wrong with the task, in its predicate or in its body. A body goes wrong too when it
returns without having provided every output. -/
def fault? : Act → Option Failure
  | .unruled | .declined => none
  | .faulted f => some f
  | .ran asked e =>
    match u.taken (Staging.after u.task.outputs asked) e with
    | .ok _ => none
    | .error f => some f

/-- The body returned, and had provided every output. -/
def Fulfils (asked : List Request) : Act → Prop
  | .ran asked' e => asked' = asked ∧ e = .returned () ∧
    ∀ k ∈ u.task.outputs, (lastProvided asked k).isSome = true
  | _ => False

/-- The finales of a task's job. -/
inductive Finishes (a : Act) : Finale → Prop
  | declined (is : a = .declined) : Finishes a { ending := .returned .skip }
  | succeeded (asked : List Request) (fulfils : u.Fulfils asked a) :
    Finishes a
      { pairs := (Staging.provided u.task.outputs asked).map fun p => (p.1, .value p.2)
        events := [.success, .done]
        ending := .returned .done }
  | recovered (f : Failure) (values : List Value) (fault : u.fault? a = some f)
    (fallback : u.work.fallback = some values) :
    Finishes a
      { pairs := (u.task.outputs.zip values).map fun p => (p.1, .value p.2)
        events := [f.recovered, .done]
        ending := .returned .done }
  | failed (f : Failure) (fault : u.fault? a = some f) (fallback : u.work.fallback = none) :
    Finishes a { events := [f.event, .done], ending := .failed (f.toError u.task.name) }

variable {u} {a : Act}

theorem Formed.taken_ok_iff (formed : u.Formed) {asked : List Request} {e : Ending Unit}
    {pairs : List (Key × Value)} : u.taken (Staging.after u.task.outputs asked) e = .ok pairs ↔
      u.Fulfils asked (.ran asked e) ∧ pairs = Staging.provided u.task.outputs asked := by
  cases e with
  | returned result =>
    have take := @Staging.take_after_iff u.task.outputs formed.once asked pairs
    cases result
    rw [Fulfils, taken]
    cases took : (Staging.after u.task.outputs asked).take with
    | ok pairs' =>
      rw [took] at take
      rw [Except.ok.injEq] at take ⊢
      rw [take]
      simp
    | error k =>
      rw [took] at take
      simp only [reduceCtorEq, false_iff] at take ⊢
      rintro ⟨⟨_, _, complete⟩, is⟩
      exact take ⟨complete, is⟩
  | failed | panicked =>
    constructor
    · intro no
      cases no
    · rintro ⟨⟨_, no, _⟩, _⟩
      cases no

/-- What goes wrong does not fulfil what was declared. -/
theorem Formed.not_fulfils (formed : u.Formed) {f : Failure} (fault : u.fault? a = some f)
    (asked : List Request) : ¬ u.Fulfils asked a := by
  intro fulfils
  cases a with
  | unruled | declined | faulted => exact fulfils
  | ran asked' e =>
    obtain ⟨rfl, rfl, complete⟩ := fulfils
    rw [fault?, formed.taken_ok_iff.mpr ⟨⟨rfl, rfl, complete⟩, rfl⟩] at fault
    cases fault

theorem Formed.finale_finishes (formed : u.Formed) (sound : u.Sound a) :
    u.Finishes a (u.finale a) := by
  cases a with
  | unruled => exact sound.elim
  | declined => exact .declined rfl
  | faulted f =>
    obtain ⟨values, fallback⟩ := Option.isSome_iff_exists.mp sound
    rw [finale, standIn, fallback]
    exact .recovered f values rfl fallback
  | ran asked e =>
    rw [finale]
    cases taken : u.taken (Staging.after u.task.outputs asked) e with
    | ok pairs =>
      obtain ⟨fulfils, rfl⟩ := formed.taken_ok_iff.mp taken
      exact .succeeded asked fulfils
    | error f =>
      have fault : u.fault? (.ran asked e) = some f := by rw [fault?, taken]
      cases fallback : u.work.fallback with
      | some values =>
        simp only [standIn, fallback]
        exact .recovered f values fault fallback
      | none =>
        simp only [standIn, fallback]
        exact .failed f fault fallback

/-- A task puts all of its outputs into the store, or none, and ends well in the first case. -/
theorem Finishes.keys {fin : Finale} (finishes : u.Finishes a fin) (formed : u.Formed) :
    (fin.ending = .returned .done ∧ fin.pairs.map (·.1) = u.task.outputs) ∨
      (fin.ending ≠ .returned .done ∧ fin.pairs = []) := by
  cases finishes with
  | declined | failed => exact .inr ⟨nofun, rfl⟩
  | succeeded asked fulfils =>
    refine .inl ⟨rfl, ?_⟩
    rw [List.map_map]
    cases a with
    | ran asked' e => exact Staging.provided_keys fulfils.2.2
    | unruled | declined | faulted => exact fulfils.elim
  | recovered f values fault fallback =>
    refine .inl ⟨rfl, ?_⟩
    rw [List.map_map]
    exact formed.zip_keys fallback

end FlowUnit

namespace Opened

variable {s : FlowSpec} {f : Flow} {inputs : List (Key × Value)}
  {start m last : Machine FlowState} {i job : Nat} {u : FlowUnit} {gate : Gate}
  {rest : List Nat} {body : JobBody FlowState} {c : Conclusion} {k : Key} {held : Held}
  {ends : List (Nat × Conclusion)}

/-- A task that closes keeps its word. -/
theorem task_closes (opened : Opened s f inputs start) (found : f.unit? i = some u)
    (placed : f.plan.enqueueOrder[job]? = some u.task.node) (comes : Machine.Comes start m)
    (resting : m.busy = false) (polls : m.Polls job rest body)
    (ended : (body.advance (m.world job)).1 = .ended c) :
    ∃ a, u.cameTo start job = some a ∧ u.Sound a ∧ (u.finale a).Done f.tell u.task.name m.shared c
      (body.advance (m.world job)).2.shared := by
  rcases (opened.opens_task found placed).poll_cases opened.kept (fun _ acting => acting.within)
    u.finish_of comes resting polls with
    ⟨unended, _⟩ | ⟨q, a, w, c', acting, turn, come, ended', works, closes⟩
  · exact absurd ended (unended c)
  obtain rfl := Pause.ended.inj (ended.symm.trans ended')
  have sound : u.Sound a := by
    rcases acting.phase with rfl | ran
    · have came := u.act_came turn
      cases a with
      | unruled =>
        obtain ⟨gate, gated, absent⟩ := came
        obtain ⟨v, there, _⟩ := opened.verdict_of_polls found gated placed comes polls
        exact absurd (absent.symm.trans there) nofun
      | faulted f =>
        obtain ⟨gate, gated, said⟩ := came
        obtain ⟨v, there, stands⟩ := opened.verdict_of_polls found gated placed comes polls
        exact stands f (Option.some.inj (there.symm.trans said))
      | declined | ran => trivial
    · obtain ⟨asked, e, rfl⟩ := ran a ((Process.turn_mayEnd q _).1 a w turn)
      trivial
  obtain ⟨n, node⟩ := opened.compiled.node_of_unit found
  have formed := opened.compiled.formed_of_unit found
  have ok : (m.shared.store.setAll (u.finale a).pairs).1 = .ok () := by
    refine opened.setAll_of_polls placed node comes polls ?_ fun p mem => ?_
    · rcases (formed.finale_finishes sound).keys formed with ⟨_, keys⟩ | ⟨_, absent⟩
      · exact keys ▸ formed.once
      · exact absent ▸ List.nodup_nil
    · rcases (formed.finale_finishes sound).keys formed with ⟨_, keys⟩ | ⟨_, absent⟩
      · exact ((opened.compiled.nodes_of_unit found).1.outputs n node).1 p.1
          (keys ▸ List.mem_map_of_mem mem)
      · rw [absent] at mem
        cases mem
  exact ⟨a, by rw [FlowUnit.cameTo, come]; rfl, sound, closes.done works ok⟩

/-- A predicate that closes keeps its word. -/
theorem gate_closes (opened : Opened s f inputs start) (found : f.unit? i = some u)
    (gated : u.task.gate = some gate) (placed : f.plan.enqueueOrder[job]? = some gate.node)
    (comes : Machine.Comes start m) (resting : m.busy = false) (polls : m.Polls job rest body)
    (ended : (body.advance (m.world job)).1 = .ended c) :
    ∃ e, u.checkedTo gate start job = some e ∧ (u.ruling gate e).Done f.tell u.task.name m.shared c
      (body.advance (m.world job)).2.shared := by
  obtain ⟨check, checked⟩ := Option.isSome_iff_exists.mp
    ((opened.compiled.formed_of_unit found).checked (by rw [gated]; rfl))
  rcases (opened.opens_gate found gated checked placed).poll_cases opened.kept (fun _ is => is)
    (fun a => u.conclude_of a.2) comes resting polls with
    ⟨unended, _⟩ | ⟨q, a, w, c', _, turn, come, ended', works, closes⟩
  · exact absurd ended (unended c)
  obtain rfl := Pause.ended.inj (ended.symm.trans ended')
  obtain ⟨n, node⟩ := opened.compiled.gate_of_unit found gated
  have outputs := ((opened.compiled.nodes_of_unit found).2 gate gated).outputs n node
  have ok : (m.shared.store.setAll (u.ruling gate a.2).pairs).1 = .ok () := by
    refine opened.setAll_of_polls placed node comes polls ?_ fun p mem => ?_ <;>
      rw [FlowUnit.ruling] at *
    · split
      · exact List.nodup_singleton _
      · exact List.nodup_nil
    · split at mem
      · rw [List.mem_singleton.mp mem, outputs]
        exact List.mem_singleton_self _
      · cases mem
  refine ⟨a.2, ?_, closes.done works ok⟩
  rw [FlowUnit.checkedTo, checked, Option.bind_some, come]
  rfl

/-- What a body left in the store is there at the end of the run. -/
theorem stored (opened : Opened s f inputs start) (run : start.run = .finished last)
    (comes : Machine.Comes start m) (resting : m.busy = false) (polls : m.Polls job rest body)
    (there : (body.advance (m.world job)).2.shared.store.get? k = some held) :
    last.shared.store.get? k = some held := by
  obtain ⟨m', comes', stops⟩ := Machine.run_comes run
  have quietly := ((opened.kept.reaches comes'.reaches).step_finished stops).1
  obtain ⟨next, step, _⟩ := Machine.step_of_polls resting polls
  have later := (opened.delivering.comes comes).after_poll resting polls step
    (comes.before_stop step comes' stops) there
  rw [((opened.delivering.comes comes').quietly quietly).2]
  exact later

/-- The outputs of a task are in the store at the end just if its job has succeeded. -/
theorem succeeded_of_stored (opened : Opened s f inputs start) (run : start.run = .finished last)
    (rests : Machine.Rests f.jobDeps start last ends) (found : f.unit? i = some u)
    (placed : f.plan.enqueueOrder[job]? = some u.task.node) (output : k ∈ u.task.outputs)
    (there : last.shared.store.get? k = some held) :
    last.books.stateOf job = some .succeeded := by
  obtain ⟨n, node⟩ := opened.compiled.node_of_unit found
  obtain ⟨m, comes, same⟩ := opened.delivering.last opened.kept run
  rw [same] at there
  obtain ⟨m₀, comes₀, resting, rest, body, polls, ended, _⟩ := opened.origin placed node
    (((opened.compiled.nodes_of_unit found).1.outputs n node).1 k output) comes there
  refine (rests.told.ended job .succeeded).mpr ⟨.returned .done, rests.endsWith_iff.mp ?_, rfl⟩
  exact ⟨m₀, rest, body, comes₀, resting, polls, ended⟩

/-- What became of the job of a task. -/
theorem task_outcome (opened : Opened s f inputs start) (run : start.run = .finished last)
    (rests : Machine.Rests f.jobDeps start last ends) (found : f.unit? i = some u)
    (placed : f.plan.enqueueOrder[job]? = some u.task.node) :
    ∃ state, last.books.stateOf job = some state ∧
      ((∃ cause, state = .skipped cause ∧ cause ≠ .declined ∧ last.slots[job]? ≠ some .spent ∧
          u.cameTo start job = none) ∨
        ∃ a, u.cameTo start job = some a ∧ u.Sound a ∧
          state = (u.finale a).ending.outcome.state ∧ last.slots[job]? = some .spent ∧
          ∀ p ∈ (u.finale a).pairs, last.shared.store.get? p.1 = some p.2) := by
  obtain ⟨state, at_last, ⟨cause, is, other, unspent, turns⟩ | ⟨c, ends, is, spent⟩⟩ :=
    rests.cases (opened.opens_task found placed).slot
  · refine ⟨state, at_last, .inl ⟨cause, is, other, unspent, ?_⟩⟩
    rw [FlowUnit.cameTo, turns]
    rfl
  · obtain ⟨m, rest, body, comes, resting, polls, ended⟩ := ends
    obtain ⟨a, came, sound, done⟩ := opened.task_closes found placed comes resting polls ended
    refine ⟨state, at_last, .inr ⟨a, came, sound, done.ending ▸ is, spent, fun p mem => ?_⟩⟩
    exact opened.stored run comes resting polls (done.stored p mem)

/-- What became of the job of a predicate. -/
theorem gate_outcome (opened : Opened s f inputs start)
    (rests : Machine.Rests f.jobDeps start last ends) (found : f.unit? i = some u)
    (gated : u.task.gate = some gate) (placed : f.plan.enqueueOrder[job]? = some gate.node) :
    ∃ state, last.books.stateOf job = some state ∧
      ((∃ cause, state = .skipped cause ∧ cause ≠ .declined ∧ last.slots[job]? ≠ some .spent ∧
          u.checkedTo gate start job = none) ∨
        ∃ e, u.checkedTo gate start job = some e ∧ last.slots[job]? = some .spent ∧
          state = (u.ruling gate e).ending.outcome.state) := by
  obtain ⟨check, checked⟩ := Option.isSome_iff_exists.mp
    ((opened.compiled.formed_of_unit found).checked (by rw [gated]; rfl))
  obtain ⟨state, at_last, ⟨cause, is, other, unspent, turns⟩ | ⟨c, ends, is, spent⟩⟩ :=
    rests.cases (opened.opens_gate found gated checked placed).slot
  · refine ⟨state, at_last, .inl ⟨cause, is, other, unspent, ?_⟩⟩
    rw [FlowUnit.checkedTo, checked, Option.bind_some, turns]
    rfl
  · obtain ⟨m, rest, body, comes, resting, polls, ended⟩ := ends
    obtain ⟨e, came, done⟩ := opened.gate_closes found gated placed comes resting polls ended
    exact ⟨state, at_last, .inr ⟨e, came, spent, done.ending ▸ is⟩⟩

end Opened

end KeyFlow
