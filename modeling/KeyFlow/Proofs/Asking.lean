import Mathlib.Data.List.Induction
import KeyFlow.Proofs.Run.Replay
import KeyFlow.Proofs.Staging
import KeyFlow.TaskContext

/-!
What a body asks for. A body that is answered by a context comes to a list of requests and an end;
what it has staged is a matter of the requests alone, and the value of an output is the one that was
provided for it last.
-/

namespace KeyFlow

/-- The value that the request provides for the key. -/
def Request.provides? (k : Key) : Request → Option Value
  | .provide k' v => if k' = k then some v else none
  | _ => none

/-- The value that was provided last for the key. -/
def lastProvided (asked : List Request) (k : Key) : Option Value :=
  asked.reverse.findSome? (Request.provides? k)

theorem lastProvided_concat (asked : List Request) (r : Request) (k : Key) :
    lastProvided (asked ++ [r]) k = (r.provides? k).or (lastProvided asked k) := by
  rw [lastProvided, List.reverse_append, List.reverse_singleton, List.singleton_append,
    List.findSome?_cons]
  cases r.provides? k <;> rfl

theorem Request.provides?_eq_some_iff {k : Key} {v : Value} {r : Request} :
    r.provides? k = some v ↔ r = .provide k v := by
  cases r with
  | provide k' v' => simp only [provides?, Option.ite_none_right_eq_some, Option.some.injEq,
      provide.injEq]
  | note | input | taskName => exact ⟨nofun, nofun⟩

/-- The last of the requests that provide a value for the key provides this one. -/
def ProvidedLast (asked : List Request) (k : Key) (v : Value) : Prop :=
  ∃ earlier later, asked = earlier ++ .provide k v :: later ∧ ∀ v', .provide k v' ∉ later

theorem lastProvided_eq_some_iff {asked : List Request} {k : Key} {v : Value} :
    lastProvided asked k = some v ↔ ProvidedLast asked k v := by
  have provides?_none (r : Request) : r.provides? k = none ↔ ∀ v', r ≠ .provide k v' := by
    simp only [Option.eq_none_iff_forall_ne_some, Ne, Request.provides?_eq_some_iff]
  rw [lastProvided, List.findSome?_eq_some_iff]
  constructor
  · rintro ⟨later, r, earlier, is, provides, none⟩
    obtain rfl := Request.provides?_eq_some_iff.mp provides
    refine ⟨earlier.reverse, later.reverse, ?_, fun v' mem => ?_⟩
    · rw [← asked.reverse_reverse, is, List.reverse_append, List.reverse_cons,
        List.append_assoc, List.singleton_append]
    · exact (provides?_none _).mp (none _ (List.mem_reverse.mp mem)) v' rfl
  · rintro ⟨earlier, later, rfl, last⟩
    refine ⟨later.reverse, _, earlier.reverse, ?_, Request.provides?_eq_some_iff.mpr rfl,
      fun r mem => (provides?_none r).mpr fun v' is => ?_⟩
    · rw [List.reverse_append, List.reverse_cons, List.append_assoc, List.singleton_append]
    · exact last v' (is ▸ List.mem_reverse.mp mem)

theorem lastProvided_eq_none_iff {asked : List Request} {k : Key} :
    lastProvided asked k = none ↔ ∀ v, .provide k v ∉ asked := by
  rw [lastProvided, List.findSome?_eq_none_iff]
  constructor
  · intro silent v mem
    have provides := silent _ (List.mem_reverse.mpr mem)
    rw [Request.provides?_eq_some_iff.mpr rfl] at provides
    cases provides
  · intro never r mem
    refine Option.eq_none_iff_forall_ne_some.mpr fun v provides => never v ?_
    exact Request.provides?_eq_some_iff.mp provides ▸ List.mem_reverse.mp mem

namespace Staging

def heed (s : Staging) : Request → Staging
  | .provide k v => (s.provide k v).getD s
  | _ => s

/-- What is staged after these requests. -/
def after (outputs : List Key) (asked : List Request) : Staging := asked.foldl heed ⟨outputs, []⟩

theorem after_concat (outputs : List Key) (asked : List Request) (r : Request) :
    after outputs (asked ++ [r]) = (after outputs asked).heed r :=
  List.foldl_concat ..

theorem heed_outputs (s : Staging) (r : Request) : (s.heed r).outputs = s.outputs := by
  cases r with
  | provide k v =>
    rw [heed, provide]
    split <;> rfl
  | note | input | taskName => rfl

theorem after_outputs (outputs : List Key) (asked : List Request) :
    (after outputs asked).outputs = outputs := by
  induction asked using List.reverseRecOn with
  | nil => rfl
  | append_singleton asked r ih => rw [after_concat, heed_outputs, ih]

theorem lookup_replaced (staged : List (Key × Value)) (k x : Key) (v : Value) :
    (staged.filter (·.1 != k) ++ [(k, v)]).lookup x =
      if k = x then some v else staged.lookup x := by
  induction staged with
  | nil =>
    rw [List.filter_nil, List.nil_append, List.lookup_cons]
    by_cases same : k = x
    · simp [same]
    · simp [same, beq_false_of_ne (Ne.symm same)]
  | cons p staged ih =>
    rw [List.filter_cons, List.lookup_cons]
    by_cases apart : p.1 = k
    · rw [if_neg (by simp [apart]), ih]
      by_cases same : k = x
      · rw [if_pos same, if_pos same]
      · rw [if_neg same, if_neg same, apart, beq_false_of_ne (Ne.symm same)]
    · rw [if_pos (by simp [apart]), List.cons_append, List.lookup_cons, ih]
      by_cases same : k = x
      · rw [if_pos same, if_pos same, ← same, beq_false_of_ne (Ne.symm apart)]
      · rw [if_neg same, if_neg same]

/-- What is staged for an output was provided for it last. -/
theorem after_lookup {outputs : List Key} {k : Key} (declared : k ∈ outputs)
    (asked : List Request) : (after outputs asked).staged.lookup k = lastProvided asked k := by
  induction asked using List.reverseRecOn with
  | nil => rfl
  | append_singleton asked r ih =>
    rw [after_concat, lastProvided_concat, ← ih]
    cases r with
    | provide k' v =>
      rw [heed, provide, Request.provides?, after_outputs]
      split
      · rw [Option.getD_some, lookup_replaced]
        split <;> rfl
      · rename_i undeclared
        rw [if_neg fun same : k' = k => undeclared (same ▸ declared)]
        rfl
    | note | input | taskName => rfl

/-- The outputs with the values that were provided for them last. -/
def provided (outputs : List Key) (asked : List Request) : List (Key × Value) :=
  outputs.filterMap fun k => (lastProvided asked k).map (k, ·)

theorem after_unique (outputs : List Key) (asked : List Request) :
    ((after outputs asked).staged.map (·.1)).Nodup := by
  induction asked using List.reverseRecOn with
  | nil => exact List.nodup_nil
  | append_singleton asked r ih =>
    rw [after_concat]
    cases r with
    | provide k v =>
      rw [heed]
      cases provided : (after outputs asked).provide k v with
      | none => exact ih
      | some s => exact provide_unique ih provided
    | note | input | taskName => exact ih

/-- The outputs are taken as they were provided last, up to the first that was not. -/
theorem take_after {outputs : List Key} (once : outputs.Nodup) (asked : List Request) :
    (after outputs asked).take = (outputs.find? fun k => (lastProvided asked k).isNone).elim
      (.ok (provided outputs asked)) .error := by
  have missing : missing? (after outputs asked).staged outputs =
      outputs.find? fun k => (lastProvided asked k).isNone :=
    List.find?_congr fun k declared => by rw [after_lookup declared]
  have same : pairs (after outputs asked).staged outputs = provided outputs asked :=
    List.filterMap_congr fun k declared => by rw [after_lookup declared]
  rw [take, after_outputs, draw_eq once (after_unique outputs asked), missing, same]

/-- All outputs are taken just if each was provided. -/
theorem take_after_iff {outputs : List Key} (once : outputs.Nodup) {asked : List Request}
    {pairs : List (Key × Value)} : (after outputs asked).take = .ok pairs ↔
      (∀ k ∈ outputs, (lastProvided asked k).isSome = true) ∧ pairs = provided outputs asked := by
  have complete : (outputs.find? fun k => (lastProvided asked k).isNone) = none ↔
      ∀ k ∈ outputs, (lastProvided asked k).isSome = true := by
    rw [List.find?_eq_none]
    refine forall₂_congr fun k declared => ?_
    cases lastProvided asked k <;> simp
  rw [take_after once, ← complete]
  cases outputs.find? fun k => (lastProvided asked k).isNone with
  | some k => exact ⟨nofun, fun no => nomatch no.1⟩
  | none =>
    rw [Option.elim_none, Except.ok.injEq]
    exact ⟨fun is => ⟨rfl, is.symm⟩, fun is => is.2.symm⟩

theorem provided_keys {outputs : List Key} {asked : List Request}
    (complete : ∀ k ∈ outputs, (lastProvided asked k).isSome = true) :
    (provided outputs asked).map (·.1) = outputs := by
  induction outputs with
  | nil => rfl
  | cons k outputs ih =>
    obtain ⟨here, later⟩ := List.forall_mem_cons.mp complete
    obtain ⟨v, found⟩ := Option.isSome_iff_exists.mp here
    rw [provided, List.filterMap_cons_some (by rw [found]; rfl), List.map_cons]
    exact congrArg (k :: ·) (ih later)

theorem mem_provided {outputs : List Key} {asked : List Request} {k : Key} {v : Value} :
    (k, v) ∈ provided outputs asked ↔ k ∈ outputs ∧ lastProvided asked k = some v := by
  rw [provided, List.mem_filterMap]
  constructor
  · rintro ⟨k', declared, found⟩
    obtain ⟨v', last, same⟩ := Option.map_eq_some_iff.mp found
    cases same
    exact ⟨declared, last⟩
  · rintro ⟨declared, last⟩
    exact ⟨k, declared, by rw [last]; rfl⟩

end Staging

namespace TaskBody

variable {σ α β : Type} {c : TaskContext} {lookup : σ → Key → Option Value} {write : Note → σ → σ}
  {outputs : List Key}

theorem answer_staging (c : TaskContext) (lookup : σ → Key → Option Value) (write : Note → σ → σ)
    (own : Staging) (r : Request) (s : σ) : (c.answer lookup write own r s).2.1 = own.heed r := by
  cases r with
  | provide k v =>
    rw [TaskContext.answer, Staging.heed]
    cases own.provide k v <;> rfl
  | note | input | taskName => rfl

/-- Answers a body that has asked for this, and notes what it asks for. -/
def attend (c : TaskContext) (lookup : σ → Key → Option Value) (write : Note → σ → σ)
    (outputs : List Key) (asked : List Request) (r : Request) (s : σ) :
    Reply r × List Request × σ :=
  let answer := c.answer lookup write (Staging.after outputs asked) r s
  (answer.1, asked ++ [r], answer.2.2)

/-- The body, answered by a context, comes to what it asked for and to its end. -/
def asking (c : TaskContext) (lookup : σ → Key → Option Value) (write : Note → σ → σ)
    (outputs : List Key) (body : TaskBody α) : Process σ (List Request × Ending α) :=
  body.interpret (attend c lookup write outputs) (fun asked e => .done (asked, e)) []

/-- What is made of a body is made of what it asked for and of its end. -/
theorem interpret_eq_asking (body : TaskBody α) (k : Staging → Ending α → Process σ β) :
    body.interpret (c.answer lookup write) k ⟨outputs, []⟩ =
      Process.andThen (fun a => k (Staging.after outputs a.1) a.2)
        (body.asking c lookup write outputs) := by
  have onward (asked : List Request) : body.interpret (c.answer lookup write) k
      (Staging.after outputs asked) =
        Process.andThen (fun a => k (Staging.after outputs a.1) a.2)
          (body.interpret (attend c lookup write outputs) (fun asked e => .done (asked, e))
            asked) := by
    induction body generalizing asked with
    | done e => rfl
    | call r next ih =>
      rw [Body.interpret, Body.interpret, Process.andThen]
      refine congrArg₂ _ rfl (funext fun s => ?_)
      rw [answer_staging, ← Staging.after_concat]
      exact ih _ (asked ++ [r])
    | sleep millis next ih => exact congrArg (Body.sleep millis) (funext fun t => ih t asked)
    | awaitCancel next ih => exact congrArg Body.awaitCancel (funext fun t => ih t asked)
    | isCancelled next ih => exact congrArg Body.isCancelled (funext fun b => ih b asked)
    | cancelRun next ih => exact congrArg Body.cancelRun (ih asked)
    | cancelOwn next ih => exact congrArg Body.cancelOwn (ih asked)
  exact onward []

/-- A body changes the state of its run by its notes only. -/
theorem asking_within {R : σ → σ → Prop} (refl : ∀ s, R s s) (note : ∀ n s, R s (write n s))
    (body : TaskBody α) : (body.asking c lookup write outputs).Within R := by
  have onward (asked : List Request) : Process.Within R
      (body.interpret (attend c lookup write outputs) (fun asked e => .done (asked, e)) asked) := by
    induction body generalizing asked with
    | done e => trivial
    | call r next ih =>
      refine fun s => ⟨?_, ih _ _⟩
      cases r with
      | note n => exact note n s
      | provide k v =>
        simp only [attend, TaskContext.answer]
        split <;> exact refl s
      | input | taskName => exact refl s
    | sleep millis next ih | awaitCancel next ih => exact fun t => ih t asked
    | isCancelled next ih => exact fun b => ih b asked
    | cancelRun next ih | cancelOwn next ih => exact ih asked
  exact onward []

end TaskBody

namespace TaskContext

theorem answer_provide {σ : Type} (c : TaskContext) (lookup : σ → Key → Option Value)
    (write : Note → σ → σ) (own : Staging) (k : Key) (v : Value) (s : σ) :
    c.answer lookup write own (.provide k v) s =
      if k ∈ own.outputs then (.ok (), own.heed (.provide k v), s)
      else (.error (.undeclaredOutput c.task k), own, s) := by
  rw [answer, Staging.heed, Staging.provide]
  by_cases declared : k ∈ own.outputs
  · simp only [if_pos declared, Option.getD_some]
  · simp only [if_neg declared]

/-- A value is put aside just if it is for a declared output; any other is refused, and nothing is
changed by it. Afterwards the outputs are taken just if each was provided: one pair for each in the
order of their declaration, with the value that was provided for it last. Otherwise the first of
those that never were is missing. -/
theorem outputs_are_staged {σ : Type} (c : TaskContext) (lookup : σ → Key → Option Value)
    (write : Note → σ → σ) (outputs : List Key) (once : outputs.Nodup) (asked : List Request) :
    (∀ r s, (c.answer lookup write (Staging.after outputs asked) r s).2.1 =
      Staging.after outputs (asked ++ [r])) ∧
    (∀ k v s, c.answer lookup write (Staging.after outputs asked) (.provide k v) s =
      if k ∈ outputs then (.ok (), Staging.after outputs (asked ++ [.provide k v]), s)
      else (.error (.undeclaredOutput c.task k), Staging.after outputs asked, s)) ∧
    ((∃ pairs, (Staging.after outputs asked).take = .ok pairs) ↔
      ∀ k ∈ outputs, ∃ v, .provide k v ∈ asked) ∧
    (∀ pairs, (Staging.after outputs asked).take = .ok pairs →
      pairs.map (·.1) = outputs ∧ ∀ p ∈ pairs, ProvidedLast asked p.1 p.2) ∧
    ∀ k, (Staging.after outputs asked).take = .error k ↔
      (∀ v, .provide k v ∉ asked) ∧ ∃ earlier later, outputs = earlier ++ k :: later ∧
        ∀ k' ∈ earlier, ∃ v, .provide k' v ∈ asked := by
  have provided (k : Key) : (lastProvided asked k).isSome = true ↔ ∃ v, .provide k v ∈ asked := by
    rw [← not_iff_not, Option.not_isSome_iff_eq_none, lastProvided_eq_none_iff, not_exists]
  refine ⟨fun r s => ?_, fun k v s => ?_, ?_, fun pairs taken => ?_, fun k => ?_⟩
  · rw [TaskBody.answer_staging, Staging.after_concat]
  · rw [answer_provide, Staging.after_outputs, Staging.after_concat]
  · simp only [Staging.take_after_iff once, exists_and_left, exists_eq, and_true, provided]
  · obtain ⟨complete, rfl⟩ := (Staging.take_after_iff once).mp taken
    exact ⟨Staging.provided_keys complete, fun p mem =>
      lastProvided_eq_some_iff.mp (Staging.mem_provided.mp mem).2⟩
  · have missing : (Staging.after outputs asked).take = .error k ↔
        (outputs.find? fun k => (lastProvided asked k).isNone) = some k := by
      rw [Staging.take_after once]
      cases outputs.find? fun k => (lastProvided asked k).isNone <;> simp
    simp only [missing, List.find?_eq_some_iff_append, Option.isNone_iff_eq_none,
      lastProvided_eq_none_iff, Bool.not_eq_true', Option.isNone_eq_false_iff, provided]

/-- The first of two outputs is provided after the second, which is provided twice; a third key is
refused in between. -/
theorem outputs_are_staged_twice :
    [Key.named "a", .named "b"].Nodup ∧ ∃ asked pairs,
      asked = [.provide (.named "b") (.untyped (.int 1)), .provide (.named "c") (.untyped .null),
        .provide (.named "a") (.untyped (.int 2)), .provide (.named "b") (.untyped (.int 3))] ∧
      (Staging.after [.named "a", .named "b"] asked).take = .ok pairs ∧
      pairs = [(.named "a", .untyped (.int 2)), (.named "b", .untyped (.int 3))] ∧
      pairs.map (·.1) = [.named "a", .named "b"] ∧
      ∀ p ∈ pairs, ProvidedLast asked p.1 p.2 := by
  have once : [Key.named "a", .named "b"].Nodup := by decide
  obtain ⟨_, _, _, all, _⟩ := outputs_are_staged (σ := Unit) ⟨"work", []⟩ (fun _ _ => none)
    (fun _ s => s) _ once [.provide (.named "b") (.untyped (.int 1)),
      .provide (.named "c") (.untyped .null), .provide (.named "a") (.untyped (.int 2)),
      .provide (.named "b") (.untyped (.int 3))]
  exact ⟨once, _, _, rfl, rfl, rfl, all _ rfl⟩

end TaskContext

end KeyFlow
