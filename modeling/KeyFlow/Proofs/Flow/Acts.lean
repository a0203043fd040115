import KeyFlow.Proofs.Asking
import KeyFlow.Proofs.Flow.Delivered
import KeyFlow.Proofs.Run.Heard

/-!
The two parts of a job of a flow. First it acts: it runs a body, or finds that there is none to run.
Then, in one move, it puts into the store what came of that, tells it, and ends.
-/

namespace KeyFlow

namespace Process

variable {σ α β : Type}

theorem mayEnd_map {f : α → β} {p : Process σ α} {b : β} (may : (p.map f).MayEnd b) :
    ∃ a, b = f a := by
  induction p with
  | done a => exact ⟨a, may.symm⟩
  | call change next ih =>
    obtain ⟨reply, may⟩ := may
    exact ih reply may
  | sleep _ next ih | awaitCancel next ih =>
    obtain ⟨t, may⟩ := may
    exact ih t may
  | isCancelled next ih =>
    obtain ⟨b, may⟩ := may
    exact ih b may
  | cancelRun next ih | cancelOwn next ih => exact ih may

/-- A turn comes to an end of the process, or what is left of the process has no other ends. -/
theorem turn_mayEnd (p : Process σ α) (w : World σ) :
    (∀ a w', p.turn w = (.inl a, w') → p.MayEnd a) ∧
      ∀ next w', p.turn w = (.inr next, w') → ∀ t a, (next t).MayEnd a → p.MayEnd a := by
  induction p generalizing w with
  | done a =>
    refine ⟨?_, ?_⟩
    · rintro _ _ ⟨⟩
      rfl
    · rintro _ _ ⟨⟩
  | call change next ih =>
    obtain ⟨came, paused⟩ := ih w.shared { w with shared := change w.shared }
    exact ⟨fun a w' turn => ⟨_, came a w' turn⟩,
      fun rest w' turn t a may => ⟨_, paused rest w' turn t a may⟩⟩
  | sleep millis next ih =>
    cases millis with
    | zero =>
      obtain ⟨came, paused⟩ := ih w.clock w
      exact ⟨fun a w' turn => ⟨_, came a w' turn⟩,
        fun rest w' turn t a may => ⟨_, paused rest w' turn t a may⟩⟩
    | succ n =>
      refine ⟨?_, ?_⟩
      · rintro _ _ ⟨⟩
      · rintro _ _ ⟨⟩ t a may
        exact ⟨t, may⟩
  | awaitCancel next ih =>
    rw [turn]
    split
    · obtain ⟨came, paused⟩ := ih w.clock w
      exact ⟨fun a w' turn => ⟨_, came a w' turn⟩,
        fun rest w' turn t a may => ⟨_, paused rest w' turn t a may⟩⟩
    · refine ⟨?_, ?_⟩
      · rintro _ _ ⟨⟩
      · rintro _ _ ⟨⟩ t a may
        exact ⟨t, may⟩
  | isCancelled next ih =>
    obtain ⟨came, paused⟩ := ih (w.cancelled || w.ownCancelled) w
    exact ⟨fun a w' turn => ⟨_, came a w' turn⟩,
      fun rest w' turn t a may => ⟨_, paused rest w' turn t a may⟩⟩
  | cancelRun next ih => exact ih { w with cancelled := true }
  | cancelOwn next ih => exact ih { w with ownCancelled := w.ownCancelled || !w.cancelled }

theorem replay_mayEnd {p : Process σ α} {ws : List (World σ)} {a : α} {w : World σ}
    (came : p.replay ws = some (a, w)) : p.MayEnd a := by
  induction ws generalizing p with
  | nil => cases came
  | cons first ws ih =>
    rcases turn : p.turn first with ⟨b | next, w'⟩
    · rw [replay_of_inl turn, Option.some.injEq, Prod.mk.injEq] at came
      exact came.1 ▸ (turn_mayEnd p first).1 b w' turn
    · rw [replay_of_inr turn] at came
      obtain ⟨woken, _, came⟩ := Option.bind_eq_some_iff.mp came
      exact (turn_mayEnd p first).2 next w' turn _ a (ih came)

end Process

/-- The state of a flow run while a body acts in it: only notes are written, and of the tasks only
these begin to tell their outcome by themselves. -/
structure FlowState.Works (tell : Happening → Sinks → Sinks) (mine : Nat → Prop)
    (s s' : FlowState) : Prop where
  store : s'.store = s.store
  sinks : Sinks.Heard tell s.sinks [] s'.sinks
  handled : ∀ i ∈ s'.handled, mine i ∨ i ∈ s.handled

namespace FlowState.Works

variable {tell : Happening → Sinks → Sinks} {mine : Nat → Prop} {s s' s'' : FlowState}

theorem refl (s : FlowState) : Works tell mine s s := ⟨rfl, .nothing, fun _ => .inr⟩

theorem trans (first : Works tell mine s s') (rest : Works tell mine s' s'') :
    Works tell mine s s'' :=
  ⟨rest.store.trans first.store, first.sinks.trans rest.sinks,
    fun i mem => (rest.handled i mem).elim .inl (first.handled i)⟩

theorem note (n : Note) (s : FlowState) : Works tell mine s (s.note n) :=
  ⟨rfl, .note .nothing n, fun _ => .inr⟩

theorem handle {i : Nat} (own : mine i) (s : FlowState) : Works tell mine s (s.handle i) :=
  ⟨rfl, .nothing, fun j mem => (List.mem_cons.mp mem).imp_left fun is : j = i => is ▸ own⟩

end FlowState.Works

/-- What a job puts into the store and tells in the end, and how it ends. -/
structure Finale where
  pairs : List (Key × Held) := []
  events : List TaskEvent := []
  ending : Conclusion

namespace Finale

/-- A job that ends like this leaves this state behind. It keeps its word where the slots of the
pairs are free. -/
structure Closes (fin : Finale) (tell : Happening → Sinks → Sinks) (task : String)
    (s : FlowState) (c : Conclusion) (s' : FlowState) : Prop where
  keys : s'.store.keys = s.store.keys
  handled : s'.handled = s.handled
  free : (s.store.setAll fin.pairs).1 = .ok () → c = fin.ending ∧
    s' = { s with
      store := (s.store.setAll fin.pairs).2
      sinks := Lifecycle.tellAll tell (Lifecycle.ofTask task fin.events) s.sinks }

/-- The rest of a job is this finale. -/
def Of (fin : Finale) (tell : Happening → Sinks → Sinks) (task : String)
    (body : JobBody FlowState) : Prop :=
  ∀ w : World FlowState, ∃ c s', Process.turn body w = (.inl c, { w with shared := s' }) ∧
    fin.Closes tell task w.shared c s'

variable {tell : Happening → Sinks → Sinks} {task : String}

/-- A job that ends like this has kept its word. -/
structure Done (fin : Finale) (tell : Happening → Sinks → Sinks) (task : String)
    (s : FlowState) (c : Conclusion) (s' : FlowState) : Prop where
  ending : c = fin.ending
  stored : ∀ p ∈ fin.pairs, s'.store.get? p.1 = some p.2
  told : Sinks.Heard tell s.sinks (Lifecycle.ofTask task fin.events) s'.sinks

theorem Closes.done {fin : Finale} {mine : Nat → Prop} {s w s' : FlowState} {c : Conclusion}
    (closes : fin.Closes tell task w c s') (works : FlowState.Works tell mine s w)
    (ok : (s.store.setAll fin.pairs).1 = .ok ()) : fin.Done tell task s c s' := by
  obtain ⟨ending, rfl⟩ := closes.free (works.store ▸ ok)
  refine ⟨ending, fun p mem => ?_, ?_⟩
  · have listed := lookup_of_mem (Store.setAll_free ok).1 (a := p.1) (b := p.2) mem
    rw [works.store]
    exact ((Store.Added.of_setAll ok).found listed).2
  · simpa using works.sinks.trans (.all (Lifecycle.ofTask task fin.events))

theorem of_done (c : Conclusion) : Of { ending := c } tell task (.done c) :=
  fun w => ⟨c, w.shared, rfl, rfl, rfl, fun _ => ⟨rfl, rfl⟩⟩

theorem of_report {u : FlowUnit} (events : List TaskEvent) (c : Conclusion) :
    Of { events, ending := c } tell u.task.name (u.report tell events (.done c)) :=
  fun _ => ⟨c, _, rfl, rfl, rfl, fun _ => ⟨rfl, rfl⟩⟩

/-- An attempt to write to the store, and then one of two finales that do not. -/
theorem of_put (pairs : List (Key × Held)) {onError : StoreError → JobBody FlowState}
    (refused : ∀ e, ∃ fin : Finale, fin.Of tell task (onError e)) {next : JobBody FlowState}
    {events : List TaskEvent} {c : Conclusion} (rest : Of { events, ending := c } tell task next) :
    Of ⟨pairs, events, c⟩ tell task (Process.attempt (FlowState.put pairs) onError next) := by
  intro w
  have keys := w.shared.store.setAll_keys pairs
  simp only [Process.attempt, Process.turn]
  cases written : (w.shared.put pairs).1 with
  | error e =>
    obtain ⟨fin, of⟩ := refused e
    obtain ⟨c', s', turn, closes⟩ := of { w with shared := (w.shared.put pairs).2 }
    refine ⟨c', s', turn, closes.keys.trans keys, closes.handled, fun ok => ?_⟩
    cases written.symm.trans ok
  | ok =>
    obtain ⟨c', s', turn, closes⟩ := rest { w with shared := (w.shared.put pairs).2 }
    exact ⟨c', s', turn, closes.keys.trans keys, closes.handled, fun _ => closes.free rfl⟩

end Finale

/-- What the first part of a task's job comes to. -/
inductive Act where
  /-- There is no verdict of the predicate. -/
  | unruled
  /-- The predicate said that the task is not to run. -/
  | declined
  /-- The predicate went wrong, and values stand in. -/
  | faulted (f : Failure)
  /-- The body ran: what it asked for, and how it ended. -/
  | ran (asked : List Request) (e : Ending Unit)

/-- From such an act on the task tells its outcome by itself. -/
def Act.Handles : Act → Prop
  | .faulted _ | .ran .. => True
  | .unruled | .declined => False

namespace FlowUnit

variable (u : FlowUnit)

/-- The body of the task runs. -/
def running : Process FlowState Act :=
  Process.change (FlowState.handle u.index)
    ((u.work.body.asking ⟨u.task.name, u.task.inputs⟩ (fun s k => s.store.value? k) FlowState.note
      u.task.outputs).map fun a => .ran a.1 a.2)

def obeying : Verdict → Process FlowState Act
  | .run => u.running
  | .skip => .done .declined
  | .faulted f => Process.change (FlowState.handle u.index) (.done (.faulted f))

/-- The first part of the job of the task. -/
def act : Process FlowState Act :=
  match u.task.gate with
  | none => u.running
  | some gate =>
    Process.look fun s =>
      match s.store.verdict? gate.sentinel with
      | some v => u.obeying v
      | none => .done .unruled

/-- Puts the values that stand in in the place of the outputs, if there are any. -/
def standIn (f : Failure) (otherwise : Finale) : Finale :=
  match u.work.fallback with
  | some values =>
    { pairs := (u.task.outputs.zip values).map fun p => (p.1, .value p.2)
      events := [f.recovered, .done]
      ending := .returned .done }
  | none => otherwise

/-- What the job of the task makes of its first part. -/
def finale : Act → Finale
  | .unruled => { ending := .failed (Breach.noVerdict u.task.name).toError }
  | .declined => { ending := .returned .skip }
  | .faulted f => u.standIn f { ending := .failed (Breach.noFallback u.task.name).toError }
  | .ran asked e =>
    match u.taken (Staging.after u.task.outputs asked) e with
    | .ok pairs =>
      { pairs := pairs.map fun p => (p.1, .value p.2)
        events := [.success, .done]
        ending := .returned .done }
    | .error f =>
      u.standIn f { events := [f.event, .done], ending := .failed (f.toError u.task.name) }

/-- The second part of the job of the task. -/
def finish (tell : Happening → Sinks → Sinks) : Act → JobBody FlowState
  | .unruled => breach (.noVerdict u.task.name)
  | .declined => .done (.returned .skip)
  | .faulted f =>
    match u.work.fallback with
    | some values => u.recover tell f values []
    | none => breach (.noFallback u.task.name)
  | .ran asked e => u.settle tell (u.taken (Staging.after u.task.outputs asked) e)

/-- The first part of the job of the predicate. -/
def checking (gate : Gate) (check : TaskBody Bool) :
    Process FlowState (List Request × Ending Bool) :=
  check.asking ⟨u.task.name, gate.inputs⟩ (fun s k => s.store.value? k) FlowState.note []

/-- What the job of the predicate makes of its check. -/
def ruling (gate : Gate) (e : Ending Bool) : Finale :=
  match u.verdict e with
  | .ok v => { pairs := [(gate.sentinel, .verdict v)], ending := .returned .done }
  | .error f =>
    { events := [f.event]
      ending := .failed ((f.inContext "predicate failed").toError u.task.name) }

variable {u} {tell : Happening → Sinks → Sinks} {gate : Gate} {check : TaskBody Bool}

theorem runBody_eq : u.runBody tell = Process.andThen (u.finish tell) u.running := by
  rw [runBody, running, TaskBody.interpret_eq_asking, Process.change, Process.change,
    Process.andThen, Process.andThen_map]
  rfl

theorem follow_eq (v : Verdict) :
    u.follow tell v = Process.andThen (u.finish tell) (u.obeying v) := by
  cases v with
  | run => exact u.runBody_eq
  | skip => rfl
  | faulted f => rfl

/-- The job of a task acts, and then closes. -/
theorem taskBody_eq : u.taskBody tell = Process.andThen (u.finish tell) u.act := by
  rw [taskBody, act]
  cases u.task.gate with
  | none => exact u.runBody_eq
  | some gate =>
    refine congrArg (Body.call id) (funext fun s => ?_)
    simp only
    cases s.store.verdict? gate.sentinel with
    | none => rfl
    | some v => exact u.follow_eq v

/-- The job of a predicate runs its check, and then closes. -/
theorem predicateBody_eq (gated : u.task.gate = some gate) (checked : u.work.check = some check) :
    u.predicateBody tell =
      Process.andThen (fun a => u.conclude tell gate (u.verdict a.2)) (u.checking gate check) := by
  rw [predicateBody, gated, checked]
  exact TaskBody.interpret_eq_asking check _

theorem commit_of (pairs : List (Key × Value)) (events refused : List TaskEvent) :
    Finale.Of ⟨pairs.map fun p => (p.1, .value p.2), events, .returned .done⟩ tell u.task.name
      (u.commit tell pairs events refused) :=
  Finale.of_put _ (fun _ => ⟨_, Finale.of_report refused _⟩) (Finale.of_report events _)

theorem recover_of (f : Failure) {values : List Value} (fallback : u.work.fallback = some values)
    (refused : List TaskEvent) (otherwise : Finale) :
    (u.standIn f otherwise).Of tell u.task.name (u.recover tell f values refused) := by
  rw [standIn, fallback]
  exact u.commit_of _ _ _

theorem finish_of (a : Act) : (u.finale a).Of tell u.task.name (u.finish tell a) := by
  cases a with
  | unruled | declined => exact Finale.of_done _
  | faulted f =>
    rw [finish]
    split
    · rename_i values fallback
      exact u.recover_of f fallback _ _
    · rename_i fallback
      rw [finale, standIn, fallback]
      exact Finale.of_done _
  | ran asked e =>
    rw [finish, finale]
    cases u.taken (Staging.after u.task.outputs asked) e with
    | ok pairs => exact u.commit_of pairs _ _
    | error f =>
      simp only [settle]
      split
      · rename_i values fallback
        exact u.recover_of f fallback _ _
      · rename_i fallback
        rw [standIn, fallback]
        exact Finale.of_report _ _

theorem conclude_of (e : Ending Bool) :
    (u.ruling gate e).Of tell u.task.name (u.conclude tell gate (u.verdict e)) := by
  rw [ruling]
  cases u.verdict e with
  | ok v => exact Finale.of_put _ (fun _ => ⟨_, Finale.of_done _⟩) (Finale.of_done _)
  | error f => exact Finale.of_report _ _

/-- The fault of a predicate is a verdict only if values stand in. -/
theorem fallback_of_faulted {e : Ending Bool} {f : Failure}
    (faulted : u.verdict e = .ok (.faulted f)) : u.work.fallback.isSome = true := by
  cases e with
  | returned b => cases b <;> cases faulted
  | failed | panicked =>
    rw [verdict] at faulted
    split at faulted
    · assumption
    · cases faulted

/-- Where values stand in, every check comes to a verdict. -/
theorem verdict_of_fallback (stands : u.work.fallback.isSome = true) (e : Ending Bool) :
    ∃ v, u.verdict e = .ok v := by
  cases e with
  | returned b => cases b <;> exact ⟨_, rfl⟩
  | failed | panicked => exact ⟨_, if_pos stands⟩

/-! ## Acting -/

theorem running_within {mine : Nat → Prop} (own : mine u.index) :
    u.running.Within (FlowState.Works tell mine) :=
  fun s => ⟨.handle own s, (TaskBody.asking_within .refl .note _).map _⟩

theorem obeying_within {mine : Nat → Prop} (own : mine u.index) (v : Verdict) :
    (u.obeying v).Within (FlowState.Works tell mine) := by
  cases v with
  | run => exact running_within own
  | skip => trivial
  | faulted f => exact fun s => ⟨.handle own s, trivial⟩

/-- While a task acts it writes nothing but notes. -/
theorem act_within {mine : Nat → Prop} (own : mine u.index) :
    u.act.Within (FlowState.Works tell mine) := by
  rw [act]
  cases u.task.gate with
  | none => exact running_within own
  | some gate =>
    refine fun s => ⟨.refl s, ?_⟩
    show Process.Within _ (match s.store.verdict? gate.sentinel with
      | some v => u.obeying v
      | none => .done .unruled)
    cases s.store.verdict? gate.sentinel with
    | none => trivial
    | some v => exact obeying_within own v

theorem checking_within {mine : Nat → Prop} :
    (u.checking gate check).Within (FlowState.Works tell mine) :=
  TaskBody.asking_within .refl .note check

theorem running_ends {a : Act} (may : u.running.MayEnd a) : ∃ asked e, a = .ran asked e := by
  obtain ⟨_, may⟩ := may
  obtain ⟨⟨asked, e⟩, rfl⟩ := Process.mayEnd_map may
  exact ⟨asked, e, rfl⟩

theorem act_gated (gated : u.task.gate = some gate) (w : World FlowState) :
    u.act.turn w = match w.shared.store.verdict? gate.sentinel with
      | some v => (u.obeying v).turn w
      | none => (.inl .unruled, w) := by
  rw [act, gated]
  show Process.turn (match w.shared.store.verdict? gate.sentinel with
    | some v => u.obeying v
    | none => .done .unruled) w = _
  cases w.shared.store.verdict? gate.sentinel <;> rfl

theorem act_ungated (ungated : u.task.gate = none) : u.act = u.running := by
  rw [act, ungated]

/-- A task that pauses is in its body. -/
theorem act_paused {w w' : World FlowState} {next : Nat → Process FlowState Act}
    (paused : u.act.turn w = (.inr next, w')) (t : Nat) {a : Act} (may : (next t).MayEnd a) :
    ∃ asked e, a = .ran asked e := by
  cases gated : u.task.gate with
  | none =>
    rw [act_ungated gated] at paused
    exact running_ends ((Process.turn_mayEnd _ w).2 next w' paused t a may)
  | some gate =>
    rw [act_gated gated] at paused
    cases verdict : w.shared.store.verdict? gate.sentinel with
    | none =>
      rw [verdict] at paused
      cases paused
    | some v =>
      rw [verdict] at paused
      cases v with
      | run => exact running_ends ((Process.turn_mayEnd _ w).2 next w' paused t a may)
      | skip | faulted => cases paused

/-- Why a task came to this in its first turn. -/
theorem act_came {w w' : World FlowState} {a : Act} (came : u.act.turn w = (.inl a, w')) :
    match a with
    | .unruled => ∃ gate, u.task.gate = some gate ∧ w.shared.store.verdict? gate.sentinel = none
    | .declined => w'.shared.handled = w.shared.handled
    | .faulted f =>
      ∃ gate, u.task.gate = some gate ∧ w.shared.store.verdict? gate.sentinel = some (.faulted f)
    | .ran .. => True := by
  have ran (came : u.running.turn w = (.inl a, w')) : ∃ asked e, a = .ran asked e :=
    running_ends ((Process.turn_mayEnd _ w).1 a w' came)
  cases gated : u.task.gate with
  | none =>
    rw [act_ungated gated] at came
    obtain ⟨asked, e, rfl⟩ := ran came
    trivial
  | some gate =>
    rw [act_gated gated] at came
    cases verdict : w.shared.store.verdict? gate.sentinel with
    | none =>
      rw [verdict] at came
      cases came
      exact ⟨gate, rfl, verdict⟩
    | some v =>
      rw [verdict] at came
      cases v with
      | run =>
        obtain ⟨asked, e, rfl⟩ := ran came
        trivial
      | skip =>
        cases came
        rfl
      | faulted f =>
        cases came
        exact ⟨gate, rfl, verdict⟩

end FlowUnit

end KeyFlow
