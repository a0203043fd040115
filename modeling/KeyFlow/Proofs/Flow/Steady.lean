import KeyFlow.Proofs.Flow.Cast
import KeyFlow.Proofs.Flow.Delivered

/-!
Steady bodies come to an end by themselves, however long they sleep, and what comes of them depends
only on the inputs that they read. The job of a task or of a predicate with steady bodies plays the
part that the evaluation foresees for it.
-/

namespace KeyFlow

namespace Body

variable {α : Type}

/-- Whenever the body is woken, it ends by itself and well, without a word to its run. -/
def Always (c : TaskContext) (values : Key → Option Value) (good : Staging → Ending α → Prop) :
    (cancelled : Bool) → Staging → TaskBody α → Prop
  | _, own, .done e => good own e
  | cancelled, own, .call request next =>
    Always c values good cancelled (c.reply values own request).2
      (next (c.reply values own request).1)
  | cancelled, own, .sleep _ next => ∀ t, Always c values good cancelled own (next t)
  | cancelled, own, .awaitCancel next =>
    cancelled = true ∧ ∀ t, Always c values good cancelled own (next t)
  | cancelled, own, .isCancelled next => Always c values good cancelled own (next cancelled)
  | _, _, .cancelRun _ => False
  | _, own, .cancelOwn next => Always c values good true own next

end Body

/-- The values that the inputs of a context may have when its body starts. Only a key that stands
for the completion of a task may have none. -/
def TaskContext.Admits (c : TaskContext) (values : Key → Option Value) : Prop :=
  ∀ k ∈ c.inputs, (values k).isSome = true ∨ ∃ i, k = .finished i

/-- A body whose outputs are those that its evaluation foresees. -/
def TaskBody.IsSteady (c : TaskContext) (outputs : List Key) (body : TaskBody Unit) : Prop :=
  ∀ values : Key → Option Value, c.Admits values →
    body.Always c values (fun own e => own.given e = body.outputs? c outputs values) false
      ⟨outputs, []⟩

/-- A check that says what its evaluation foresees. -/
def TaskBody.IsSteadyCheck (c : TaskContext) (check : TaskBody Bool) : Prop :=
  ∀ values : Key → Option Value, c.Admits values →
    check.Always c values (fun _ e => e.truth = check.truth? c values) false ⟨[], []⟩

/-- A task whose bodies are steady. -/
structure FlowTask.Steady (t : FlowTask) : Prop where
  body : ∀ body, t.body = some body →
    body.IsSteady ⟨t.name, t.signature.inputs⟩ t.signature.outputs
  check : ∀ p check, t.predicate = some p → p.check = some check →
    check.IsSteadyCheck ⟨t.name, p.decl.signature.inputs⟩

namespace TaskContext

variable {c : TaskContext}

/-- A context shows nothing but its inputs. -/
theorem read_congr {values values' : Key → Option Value}
    (same : ∀ k ∈ c.inputs, values k = values' k) (k : Key) (typed : Bool) :
    c.read values k typed = c.read values' k typed := by
  unfold read
  split
  · rename_i mem
    rw [same k mem]
  · rfl

theorem answer_eq {values : Key → Option Value} {s : FlowState}
    (same : ∀ k ∈ c.inputs, s.store.value? k = values k) (own : Staging) (request : Request) :
    let answered := c.answer (fun s k => s.store.value? k) FlowState.note own request s
    answered.1 = (c.reply values own request).1 ∧ answered.2.1 = (c.reply values own request).2 ∧
      answered.2.2.store = s.store := by
  cases request with
  | note n => exact ⟨rfl, rfl, rfl⟩
  | input k typed => exact ⟨read_congr same k typed, rfl, rfl⟩
  | provide k v =>
    simp only [answer, reply]
    split <;> exact ⟨rfl, rfl, rfl⟩
  | taskName => exact ⟨rfl, rfl, rfl⟩

end TaskContext

namespace Part

variable {α : Type} {part : Part} {cancelled written : Bool}

/-- A body that ends well plays the part of whoever goes on from there. -/
theorem interpret_plays {c : TaskContext} {values : Key → Option Value}
    {good : Staging → Ending α → Prop} {k : Staging → Ending α → JobBody FlowState}
    {body : TaskBody α} {own : Staging} (always : body.Always c values good cancelled own)
    (reads : ∀ s : Store Held, s.Agrees part.keys part.reads →
      ∀ key ∈ c.inputs, s.value? key = values key)
    (after : ∀ own e cancelled, good own e → part.Plays cancelled false (k own e)) :
    part.Plays cancelled false (body.interpret
      (c.answer (fun s k => s.store.value? k) FlowState.note) k own) := by
  induction body generalizing cancelled own with
  | done e => exact after own e cancelled always
  | call request next ih =>
    intro s ready
    obtain ⟨reply, staged, store⟩ :=
      TaskContext.answer_eq (reads s.store (ready rfl).1) own request
    refine .inl ⟨store, ?_⟩
    simp only [reply, staged]
    exact ih _ always
  | sleep millis next ih => exact fun t => ih t (always t)
  | awaitCancel next ih => exact ⟨always.1, fun t => ih t (always.2 t)⟩
  | isCancelled next ih => exact ih cancelled always
  | cancelRun next => exact always
  | cancelOwn next ih => exact ih always

theorem change_plays {f : FlowState → FlowState} (same : ∀ s, (f s).store = s.store)
    {next : JobBody FlowState} (plays : part.Plays cancelled written next) :
    part.Plays cancelled written (Process.change f next) := fun s _ => .inl ⟨same s, plays⟩

/-- A body that ends without success has left no marks. -/
theorem ended_plays {e : Conclusion} (ends : e.outcome = part.outcome)
    (fails : part.outcome ≠ .succeeded) : part.Plays cancelled false (.done e) := by
  refine ⟨ends, ?_⟩
  simp [fails]

theorem failed_plays (fails : part.outcome = .failed) (e : Error) :
    part.Plays cancelled false (.done (.failed e)) := ended_plays fails.symm (by simp [fails])

/-- What is put into slots that await its marks leaves the marks of the part. -/
theorem put_plays {pairs : List (Key × Held)}
    (writes : part.writes = pairs.map fun p => (p.1, p.2.mark)) (once : (pairs.map (·.1)).Nodup)
    (onError : StoreError → JobBody FlowState) {next : JobBody FlowState}
    (plays : part.Plays cancelled true next) :
    part.Plays cancelled false (Process.attempt (FlowState.put pairs) onError next) := by
  intro s ready
  have free : ∀ p ∈ pairs, s.store.IsFree p.1 := by
    intro p mem
    refine (ready rfl).2 (p.1, p.2.mark) ?_
    rw [writes]
    exact List.mem_map.mpr ⟨p, mem, rfl⟩
  obtain ⟨written, get⟩ := Store.setAll_ok once free
  simp only [FlowState.put, written]
  refine .inr ⟨trivial, ⟨s.store.setAll_keys pairs, fun k => ?_⟩, plays⟩
  rw [writes, Store.mark?, get, lookup_map, Store.mark?]
  cases pairs.lookup k <;> rfl

end Part

namespace FlowUnit

variable {u : FlowUnit} {part : Part} {tell : Happening → Sinks → Sinks} {cancelled : Bool}

theorem finished_plays (succeeds : part.outcome = .succeeded) :
    part.Plays cancelled true finished := ⟨succeeds.symm, fun _ => succeeds, fun _ => rfl⟩

/-- A job that commits its marks succeeds. -/
theorem commit_plays (succeeds : part.outcome = .succeeded) {pairs : List (Key × Value)}
    (writes : part.writes = marked pairs) (once : (pairs.map (·.1)).Nodup)
    (events refused : List TaskEvent) :
    part.Plays cancelled false (u.commit tell pairs events refused) := by
  refine Part.put_plays ?_ ?_ _ (Part.change_plays (fun s => rfl) (finished_plays succeeds))
  · rw [writes, List.map_map]
    rfl
  · rw [List.map_map]
    exact once

/-- A check that decides succeeds. -/
theorem decide_plays (succeeds : part.outcome = .succeeded) {sentinel : Key} (v : Verdict)
    (writes : part.writes = [(sentinel, Held.mark (.verdict v))])
    (onError : StoreError → JobBody FlowState) :
    part.Plays cancelled false
      (Process.attempt (FlowState.put [(sentinel, .verdict v)]) onError finished) := by
  refine Part.put_plays writes ?_ _ (finished_plays succeeds)
  exact List.nodup_singleton _

/-! ## Outputs -/

theorem reply_outputs (c : TaskContext) (values : Key → Option Value) (own : Staging)
    (request : Request) : (c.reply values own request).2.outputs = own.outputs :=
  c.answer_outputs ..

theorem evaluate_outputs {α : Type} {c : TaskContext} {values : Key → Option Value}
    {body : TaskBody α} {cancelled : Bool} {own own' : Staging} {e : Ending α}
    (h : body.evaluate c values cancelled own = some (own', e)) : own'.outputs = own.outputs := by
  induction body generalizing cancelled own with
  | done e' =>
    cases h
    rfl
  | call request next ih => exact (ih _ h).trans (reply_outputs c values own request)
  | sleep millis next ih => exact ih 0 h
  | awaitCancel next ih =>
    rw [Body.evaluate] at h
    split at h
    · exact ih 0 h
    · cases h
  | isCancelled next ih => exact ih cancelled h
  | cancelRun next => cases h
  | cancelOwn next ih => exact ih h

theorem outputs?_keys {c : TaskContext} {outputs : List Key} {values : Key → Option Value}
    {body : TaskBody Unit} {pairs : List (Key × Value)}
    (h : body.outputs? c outputs values = some pairs) : pairs.map (·.1) = outputs := by
  obtain ⟨⟨own, e⟩, evaluated, given⟩ := Option.bind_eq_some_iff.mp h
  cases e with
  | returned =>
    cases taken : own.take with
    | error k =>
      simp only [Staging.given, taken] at given
      cases given
    | ok pairs' =>
      simp only [Staging.given, taken] at given
      cases given
      rw [take_keys taken, evaluate_outputs evaluated]
  | failed | panicked => cases given

end FlowUnit

/-! ## The parts of units -/

def Outcome.fate : Outcome → Fate
  | .succeeded => .succeeded
  | .declined => .declined
  | .failed => .failed

/-- The part comes to this result. -/
def Part.Is (part : Part) (r : Result) : Prop := r = (part.outcome.fate, part.writes)

/-- The part reads these marks under the keys. -/
structure Part.Shows (part : Part) (marks : Key → Option Mark) (keys : List Key) : Prop where
  listed : ∀ k ∈ keys, k ∈ part.keys
  reads : ∀ k ∈ keys, part.reads k = marks k
  there : ∀ k ∈ keys, (marks k).isSome = true ∨ ∃ i, k = .finished i

namespace Part

variable {part : Part} {marks : Key → Option Mark} {keys : List Key}

theorem outcome_of_fate {o o' : Outcome} (h : o.fate = o'.fate) : o = o' := by
  cases o <;> cases o' <;> first | rfl | cases h

theorem Is.outcome {r : Result} (is : part.Is r) {o : Outcome} (fate : r.1 = o.fate) :
    part.outcome = o := outcome_of_fate (by rw [← fate, is])

theorem Is.writes {r : Result} (is : part.Is r) : part.writes = r.2 := by rw [is]

theorem Shows.admits (visible : part.Shows marks keys) (task : String) :
    TaskContext.Admits ⟨task, keys⟩ fun k => (marks k).map Mark.read := by
  intro k mem
  rw [Option.isSome_map]
  exact visible.there k mem

theorem Shows.values (visible : part.Shows marks keys) {s : Store Held}
    (agrees : s.Agrees part.keys part.reads) :
    ∀ k ∈ keys, s.value? k = (marks k).map Mark.read := by
  intro k mem
  rw [Store.value?_eq, agrees k (visible.listed k mem), visible.reads k mem]

end Part

namespace FlowUnit

/-- A unit of a flow that was built, with steady bodies. -/
structure Steady (u : FlowUnit) : Prop extends Formed u where
  body : u.work.body.IsSteady ⟨u.task.name, u.task.inputs⟩ u.task.outputs
  check : ∀ gate check, u.task.gate = some gate → u.work.check = some check →
    check.IsSteadyCheck ⟨u.task.name, gate.inputs⟩

variable {u : FlowUnit} {part : Part} {tell : Happening → Sinks → Sinks} {cancelled : Bool}
  {marks : Key → Option Mark}

theorem Steady.settled_plays (steady : u.Steady) {given : Option (List (Key × Value))}
    (keys : ∀ pairs, given = some pairs → pairs.map (·.1) = u.task.outputs)
    (is : part.Is (u.settled given)) {own : Staging} {e : Ending Unit}
    (same : own.given e = given) : part.Plays cancelled false (u.settle tell (u.taken own e)) := by
  cases given with
  | some pairs =>
    have taken : u.taken own e = .ok pairs := by
      cases e with
      | returned =>
        cases taken : own.take with
        | ok pairs' =>
          simp only [Staging.given, taken] at same
          cases same
          simp only [FlowUnit.taken, taken]
        | error k =>
          simp only [Staging.given, taken] at same
          cases same
      | failed | panicked => cases same
    rw [taken]
    refine commit_plays (is.outcome rfl) is.writes ?_ _ _
    rw [keys pairs rfl]
    exact steady.once
  | none =>
    obtain ⟨f, taken⟩ : ∃ f, u.taken own e = .error f := by
      cases e with
      | returned =>
        cases taken : own.take with
        | ok pairs' =>
          simp only [Staging.given, taken] at same
          cases same
        | error k => exact ⟨_, by rw [FlowUnit.taken, taken]⟩
      | failed | panicked => exact ⟨_, rfl⟩
    rw [taken, settle]
    cases fallback : u.work.fallback with
    | some values =>
      rw [settled, fallback] at is
      refine commit_plays (is.outcome rfl) is.writes ?_ _ _
      rw [steady.zip_keys fallback]
      exact steady.once
    | none =>
      rw [settled, fallback] at is
      exact Part.change_plays (fun _ => rfl) (Part.failed_plays (is.outcome rfl) _)

theorem Steady.runBody_plays (steady : u.Steady) (visible : part.Shows marks u.task.inputs)
    (is : part.Is (u.evaluateBody marks)) : part.Plays false false (u.runBody tell) := by
  refine Part.change_plays (fun _ => rfl) ?_
  refine Part.interpret_plays (steady.body _ (visible.admits _))
    (fun s agrees => visible.values agrees) ?_
  intro own e cancelled same
  exact steady.settled_plays (fun pairs => outputs?_keys) is same

/-- The job of a task whose inputs and verdict are there plays its part. -/
theorem Steady.taskBody_plays (steady : u.Steady) (visible : part.Shows marks u.task.inputs)
    (verdict : ∀ gate, u.task.gate = some gate →
      gate.sentinel ∈ part.keys ∧ ∃ m, part.reads gate.sentinel = some m ∧
        marks gate.sentinel = some m)
    (is : part.Is (u.evaluateTask marks)) : part.Plays false false (u.taskBody tell) := by
  unfold taskBody
  cases gate : u.task.gate with
  | none =>
    rw [evaluateTask, gate] at is
    exact steady.runBody_plays visible is
  | some g =>
    obtain ⟨listed, m, foreseen, found⟩ := verdict g gate
    rw [evaluateTask, gate] at is
    simp only [found] at is
    intro s ready
    refine .inl ⟨rfl, ?_⟩
    have mark := ((ready rfl).1 _ listed).trans foreseen
    rw [Store.mark?, Option.map_eq_some_iff] at mark
    obtain ⟨held, get, rfl⟩ := mark
    simp only [Store.verdict?, get]
    cases held with
    | value v => exact Part.failed_plays (is.outcome rfl) _
    | verdict v =>
      cases v with
      | run => exact steady.runBody_plays visible is
      | skip =>
        have declines : part.outcome = .declined := is.outcome rfl
        exact Part.ended_plays declines.symm (by simp [declines])
      | faulted f =>
        refine Part.change_plays (fun _ => rfl) ?_
        rw [settled] at is
        cases fallback : u.work.fallback with
        | some values =>
          rw [fallback] at is
          refine commit_plays (is.outcome rfl) is.writes ?_ _ _
          rw [steady.zip_keys fallback]
          exact steady.once
        | none =>
          rw [fallback] at is
          exact Part.failed_plays (is.outcome rfl) _

/-- The job of a predicate whose inputs are there plays its part. -/
theorem Steady.predicateBody_plays (steady : u.Steady) {gate : Gate}
    (gated : u.task.gate = some gate) (visible : part.Shows marks gate.inputs)
    (is : part.Is (u.evaluatePredicate marks)) : part.Plays false false (u.predicateBody tell) := by
  unfold predicateBody
  rw [evaluatePredicate, gated] at is
  rw [gated]
  cases work : u.work.check with
  | none =>
    rw [work] at is
    exact Part.failed_plays (is.outcome rfl) _
  | some check =>
    rw [work] at is
    refine Part.interpret_plays (steady.check gate check gated work _ (visible.admits _))
      (fun s agrees => visible.values agrees) ?_
    intro own e cancelled same
    simp only at is
    rw [← same] at is
    have faults (f : Failure) (is : part.Is (if u.work.fallback.isSome then
          (.succeeded, [(gate.sentinel, .fault)]) else (.failed, []))) :
        part.Plays cancelled false (u.conclude tell gate
          (if u.work.fallback.isSome then .ok (.faulted f) else .error f)) := by
      split at is
      · rename_i recovers
        rw [if_pos recovers]
        exact decide_plays (is.outcome rfl) (.faulted f) is.writes _
      · rename_i fails
        rw [if_neg fails]
        exact Part.change_plays (fun _ => rfl) (Part.failed_plays (is.outcome rfl) _)
    cases e with
    | returned b =>
      cases b with
      | true =>
        have is : part.Is (.succeeded, [(gate.sentinel, .run)]) := is
        exact decide_plays (is.outcome rfl) .run is.writes _
      | false =>
        have is : part.Is (.succeeded, [(gate.sentinel, .skip)]) := is
        exact decide_plays (is.outcome rfl) .skip is.writes _
    | failed | panicked => exact faults _ is

end FlowUnit

end KeyFlow
