import KeyFlow.Proofs.Flow.Compiled
import KeyFlow.Proofs.Flow.Written
import KeyFlow.Proofs.Staging

/-!
What the job of a node delivers. Whatever its bodies do, and whatever happens meanwhile, it leaves
the store alone until it puts all of its outputs there at once, and it ends well just if it does.
-/

namespace KeyFlow

/-- Some answers lead the body to this end. -/
def Body.MayEnd {κ : Type} {ρ : κ → Type} {α : Type} (e : α) : Body κ ρ α → Prop
  | .done a => a = e
  | .call _ next => ∃ reply, (next reply).MayEnd e
  | .sleep _ next | .awaitCancel next => ∃ t, (next t).MayEnd e
  | .isCancelled next => ∃ b, (next b).MayEnd e
  | .cancelRun next | .cancelOwn next => next.MayEnd e

namespace JobBody

/-- The rest of a body ends well, at once and without touching the store. -/
def Finishes : JobBody FlowState → Prop
  | .done e => e = .returned .done
  | .call change next => ∀ s : FlowState, (change s).store = s.store ∧ Finishes (next s)
  | .sleep .. | .awaitCancel _ | .isCancelled _ | .cancelRun _ | .cancelOwn _ => False

/-- Some of what the body may deliver has no free slot. -/
def Hindered (good : List (Key × Held) → Prop) (store : Store Held) : Prop :=
  ∃ pairs, good pairs ∧ ∃ p ∈ pairs, ¬ store.IsFree p.1

/-- A body that writes to the store just once, just before it ends well, unless it is hindered. -/
def Delivers (good : List (Key × Held) → Prop) : JobBody FlowState → Prop
  | .done e => e ≠ .returned .done
  | .call change next => ∀ s : FlowState,
    (((change s).store = s.store ∨ Hindered good s.store) ∧ Delivers good (next s)) ∨
      ∃ pairs, good pairs ∧ Store.Added pairs s.store (change s).store ∧ Finishes (next s)
  | .sleep _ next | .awaitCancel next => ∀ t, Delivers good (next t)
  | .isCancelled next => ∀ b, Delivers good (next b)
  | .cancelRun next | .cancelOwn next => Delivers good next

end JobBody

/-- What is left of the job is a body that delivers. -/
def Slot.Delivers (good : List (Key × Held) → Prop) : Slot FlowState → Prop
  | .fresh body | .queued body => body.Delivers good
  | .asleep _ next | .awaiting next => ∀ t, (next t).Delivers good
  | .spent => True

namespace JobBody

variable {good : List (Key × Held) → Prop} {body : JobBody FlowState} {w : World FlowState}

theorem Finishes.advance (finishes : body.Finishes) (w : World FlowState) :
    (body.advance w).1 = .ended (.returned .done) ∧
      (body.advance w).2.shared.store = w.shared.store := by
  induction body generalizing w with
  | done e => exact ⟨congrArg Pause.ended finishes, rfl⟩
  | call change next ih =>
    obtain ⟨same, rest⟩ := finishes w.shared
    obtain ⟨ended, store⟩ := ih w.shared rest { w with shared := change w.shared }
    exact ⟨ended, store.trans same⟩
  | sleep | awaitCancel | isCancelled | cancelRun | cancelOwn => exact finishes.elim

/-- Up to its next pause a body leaves the store alone, or it delivers and ends well. -/
theorem Delivers.advance (delivers : body.Delivers good) (w : World FlowState)
    (free : ¬ Hindered good w.shared.store) :
    ((body.advance w).2.shared.store = w.shared.store ∧
        (body.advance w).1 ≠ .ended (.returned .done)) ∨
      ∃ pairs, good pairs ∧ Store.Added pairs w.shared.store (body.advance w).2.shared.store ∧
        (body.advance w).1 = .ended (.returned .done) := by
  induction body generalizing w with
  | done e => exact .inl ⟨rfl, fun ended => delivers (Pause.ended.inj ended)⟩
  | call change next ih =>
    rcases delivers w.shared with ⟨same, rest⟩ | ⟨pairs, is, added, finishes⟩
    · have same := same.resolve_right free
      have later := ih w.shared rest { w with shared := change w.shared } (by rwa [same])
      simp only [same] at later
      exact later
    · obtain ⟨ended, store⟩ := finishes.advance { w with shared := change w.shared }
      exact .inr ⟨pairs, is, store ▸ added, ended⟩
  | sleep millis next ih =>
    cases millis with
    | zero => exact ih w.clock (delivers w.clock) w free
    | succ n => exact .inl ⟨rfl, by rintro ⟨⟩⟩
  | awaitCancel next ih =>
    rw [JobBody.advance]
    split
    · exact ih w.clock (delivers w.clock) w free
    · exact .inl ⟨rfl, by rintro ⟨⟩⟩
  | isCancelled next ih => exact ih _ (delivers _) w free
  | cancelRun next ih | cancelOwn next ih => exact ih delivers _ free

/-- A body that paused goes on as one that delivers. -/
theorem Delivers.paused (delivers : body.Delivers good) (w : World FlowState) :
    (∀ millis next, (body.advance w).1 = .asleep millis next → ∀ t, (next t).Delivers good) ∧
      ∀ next, (body.advance w).1 = .awaiting next → ∀ t, (next t).Delivers good := by
  induction body generalizing w with
  | done e =>
    refine ⟨?_, ?_⟩
    · rintro _ _ ⟨⟩
    · rintro _ ⟨⟩
  | call change next ih =>
    rcases delivers w.shared with ⟨_, rest⟩ | ⟨_, _, _, finishes⟩
    · exact ih w.shared rest _
    · have ended := (finishes.advance { w with shared := change w.shared }).1
      rw [JobBody.advance, ended]
      refine ⟨?_, ?_⟩
      · rintro _ _ ⟨⟩
      · rintro _ ⟨⟩
  | sleep millis next ih =>
    cases millis with
    | zero => exact ih w.clock (delivers w.clock) w
    | succ n =>
      refine ⟨?_, ?_⟩
      · rintro _ _ ⟨⟩
        exact delivers
      · rintro _ ⟨⟩
  | awaitCancel next ih =>
    rw [JobBody.advance]
    split
    · exact ih w.clock (delivers w.clock) w
    · refine ⟨?_, ?_⟩
      · rintro _ _ ⟨⟩
      · rintro _ ⟨⟩
        exact delivers
  | isCancelled next ih => exact ih _ (delivers _) w
  | cancelRun next ih | cancelOwn next ih => exact ih delivers _

theorem Delivers.mono {good' : List (Key × Held) → Prop}
    (more : ∀ pairs, good pairs → good' pairs) (delivers : body.Delivers good) :
    body.Delivers good' := by
  induction body with
  | done e => exact delivers
  | call change next ih =>
    intro s
    refine (delivers s).imp (fun ⟨same, rest⟩ => ⟨same.imp_right ?_, ih s rest⟩) ?_ <;>
    · rintro ⟨pairs, is, rest⟩
      exact ⟨pairs, more pairs is, rest⟩
  | sleep _ next ih | awaitCancel next ih => exact fun t => ih t (delivers t)
  | isCancelled next ih => exact fun b => ih b (delivers b)
  | cancelRun next ih | cancelOwn next ih => exact ih delivers

end JobBody

theorem Slot.Delivers.moved {good : List (Key × Held) → Prop} {new old : Slot FlowState}
    (moved : Slot.Moved new old) (was : old.Delivers good) : new.Delivers good := by
  cases moved with
  | start => exact was
  | ended => trivial
  | slept body w millis wakeAt next paused => exact (was.paused w).1 millis next paused
  | waits body w next paused => exact (was.paused w).2 next paused
  | woke wakeAt clock next => exact was clock
  | resumed clock next => exact was clock

/-! ## Outputs -/

/-- A context hands out what is staged, for the outputs that were declared. -/
theorem TaskContext.answer_outputs {σ : Type} (c : TaskContext) (lookup : σ → Key → Option Value)
    (write : Note → σ → σ) (own : Staging) (request : Request) (s : σ) :
    (c.answer lookup write own request s).2.1.outputs = own.outputs := by
  cases request with
  | provide k v =>
    simp only [answer, Staging.provide]
    split
    · rename_i provided
      split at provided
      · cases provided
        rfl
      · cases provided
    · rfl
  | note | input | taskName => rfl

/-- A context leaves the store alone. -/
theorem TaskContext.answer_store (c : TaskContext) (own : Staging) (request : Request)
    (s : FlowState) :
    (c.answer (fun s k => s.store.value? k) FlowState.note own request s).2.2.store = s.store := by
  cases request with
  | provide k v =>
    simp only [answer]
    split <;> rfl
  | note | input | taskName => rfl

namespace FlowUnit

theorem take_keys {own : Staging} {pairs : List (Key × Value)} (taken : own.take = .ok pairs) :
    pairs.map (·.1) = own.outputs := Staging.draw_keys taken

end FlowUnit

/-! ## The jobs of a flow -/

namespace JobBody

variable {good : List (Key × Held) → Prop} {α : Type}

theorem change_delivers {f : FlowState → FlowState} (same : ∀ s, (f s).store = s.store)
    {next : JobBody FlowState} (delivers : next.Delivers good) :
    Delivers good (Process.change f next) := fun s => .inl ⟨.inl (same s), delivers⟩

/-- Bodies of users have no access to the store but through their context. -/
theorem interpret_delivers {c : TaskContext} {outputs : List Key}
    {k : Staging → Ending α → JobBody FlowState} {body : TaskBody α}
    (after : ∀ own e, own.outputs = outputs → body.MayEnd e → (k own e).Delivers good)
    {own : Staging} (declared : own.outputs = outputs) :
    Delivers good
      (body.interpret (c.answer (fun s k => s.store.value? k) FlowState.note) k own) := by
  induction body generalizing own with
  | done e => exact after own e declared rfl
  | call request next ih =>
    intro s
    exact .inl ⟨.inl (c.answer_store own request s),
      ih _ (fun own e same may => after own e same ⟨_, may⟩) ((c.answer_outputs ..).trans declared)⟩
  | sleep millis next ih | awaitCancel next ih =>
    exact fun t => ih t (fun own e same may => after own e same ⟨t, may⟩) declared
  | isCancelled next ih =>
    exact fun b => ih b (fun own e same may => after own e same ⟨b, may⟩) declared
  | cancelRun next ih | cancelOwn next ih => exact ih after declared

theorem put_delivers {pairs : List (Key × Held)} (is : good pairs)
    (once : (pairs.map (·.1)).Nodup) {onError : StoreError → JobBody FlowState}
    (fails : ∀ e, (onError e).Delivers good) {next : JobBody FlowState}
    (finishes : next.Finishes) :
    Delivers good (Process.attempt (FlowState.put pairs) onError next) := by
  intro s
  simp only [FlowState.put]
  cases written : (s.store.setAll pairs).1 with
  | ok _ => exact .inr ⟨pairs, is, .of_setAll written, finishes⟩
  | error e =>
    refine .inl ⟨.inr ⟨pairs, is, ?_⟩, fails e⟩
    by_contra free
    push Not at free
    rw [(Store.setAll_ok once free).1] at written
    cases written

end JobBody

namespace FlowUnit

variable {u : FlowUnit} {tell : Happening → Sinks → Sinks}

/-- One value for each output of the task. -/
def Outputs (u : FlowUnit) (pairs : List (Key × Held)) : Prop :=
  ∃ values : List (Key × Value), values.map (·.1) = u.task.outputs ∧
    pairs = values.map fun p => (p.1, .value p.2)

/-- What an end of the check says. -/
def Verdicts (u : FlowUnit) (gate : Gate) (pairs : List (Key × Held)) : Prop :=
  ∃ check e v, u.work.check = some check ∧ check.MayEnd e ∧ u.verdict e = .ok v ∧
    pairs = [(gate.sentinel, .verdict v)]

theorem failed_delivers {good : List (Key × Held) → Prop} (e : Error) :
    JobBody.Delivers good (.done (.failed e)) := nofun

theorem report_delivers {good : List (Key × Held) → Prop} {next : JobBody FlowState}
    (events : List TaskEvent) (delivers : next.Delivers good) :
    (u.report tell events next).Delivers good := JobBody.change_delivers (fun _ => rfl) delivers

theorem Formed.commit_delivers (formed : u.Formed) {values : List (Key × Value)}
    (keys : values.map (·.1) = u.task.outputs) (events refused : List TaskEvent) :
    (u.commit tell values events refused).Delivers u.Outputs := by
  refine JobBody.put_delivers ⟨values, keys, rfl⟩ ?_
    (fun e => u.report_delivers refused (failed_delivers _)) fun s => ⟨rfl, rfl⟩
  rw [List.map_map]
  exact keys ▸ formed.once

theorem Formed.recover_delivers (formed : u.Formed) (f : Failure) {values : List Value}
    (fallback : u.work.fallback = some values) (refused : List TaskEvent) :
    (u.recover tell f values refused).Delivers u.Outputs :=
  formed.commit_delivers (formed.zip_keys fallback) _ _

theorem Formed.settle_delivers (formed : u.Formed) {taken : Except Failure (List (Key × Value))}
    (keys : ∀ pairs, taken = .ok pairs → pairs.map (·.1) = u.task.outputs) :
    (u.settle tell taken).Delivers u.Outputs := by
  cases taken with
  | ok pairs => exact formed.commit_delivers (keys pairs rfl) _ _
  | error f =>
    rw [settle]
    split
    · rename_i values fallback
      exact formed.recover_delivers f fallback _
    · exact u.report_delivers _ (failed_delivers _)

theorem taken_keys {own : Staging} (declared : own.outputs = u.task.outputs) (e : Ending Unit)
    (pairs : List (Key × Value)) (taken : u.taken own e = .ok pairs) :
    pairs.map (·.1) = u.task.outputs := by
  cases e with
  | returned result =>
    rw [FlowUnit.taken] at taken
    split at taken
    · rename_i pairs' took
      cases taken
      exact (take_keys took).trans declared
    · cases taken
  | failed | panicked => cases taken

theorem Formed.runBody_delivers (formed : u.Formed) : (u.runBody tell).Delivers u.Outputs :=
  JobBody.change_delivers (fun _ => rfl)
    (JobBody.interpret_delivers
      (fun _ e declared _ => formed.settle_delivers (taken_keys declared e)) rfl)

theorem Formed.follow_delivers (formed : u.Formed) (v : Verdict) :
    (u.follow tell v).Delivers u.Outputs := by
  cases v with
  | run => exact formed.runBody_delivers
  | skip => exact nofun
  | faulted f =>
    refine JobBody.change_delivers (fun _ => rfl) ?_
    split
    · rename_i values fallback
      exact formed.recover_delivers f fallback _
    · exact failed_delivers _

/-- The job of a task delivers its outputs. -/
theorem Formed.taskBody_delivers (formed : u.Formed) : (u.taskBody tell).Delivers u.Outputs := by
  unfold taskBody
  split
  · exact formed.runBody_delivers
  · rename_i gate gated
    refine fun s => .inl ⟨.inl rfl, ?_⟩
    cases verdict : s.store.verdict? gate.sentinel with
    | none =>
      simp only [verdict]
      exact failed_delivers _
    | some v =>
      simp only [verdict]
      exact formed.follow_delivers v

/-- The job of a predicate delivers a verdict. -/
theorem predicateBody_delivers {gate : Gate} (gated : u.task.gate = some gate) :
    (u.predicateBody tell).Delivers (u.Verdicts gate) := by
  unfold predicateBody
  rw [gated]
  cases checked : u.work.check with
  | none => exact failed_delivers _
  | some check =>
    refine JobBody.interpret_delivers (fun own e _ may => ?_) rfl
    cases verdict : u.verdict e with
    | error f => exact u.report_delivers _ (failed_delivers _)
    | ok v =>
      refine JobBody.put_delivers ⟨check, e, v, checked, may, verdict, rfl⟩ ?_
        (fun e => failed_delivers _) rfl
      exact List.nodup_singleton _

end FlowUnit

end KeyFlow
