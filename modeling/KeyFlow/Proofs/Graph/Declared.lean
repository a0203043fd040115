import Mathlib.Data.List.Nodup
import KeyFlow.Graph.Build

/-!
Declarations that are sound in themselves, said without the checks, and the checks find nothing
wrong with just these.
-/

namespace KeyFlow

namespace Signature

/-- Not variadic, with the context only as the first parameter and the error only as the last
result. -/
structure WellShaped (s : Signature) : Prop where
  fixed : s.variadic = false
  contextFirst : Key.context ∉ s.params.tail
  noErrorParam : Key.error ∉ s.params
  errorLast : Key.error ∉ s.results.dropLast
  noContextResult : Key.context ∉ s.results

theorem paramMisuses_eq_nil (first : Bool) (ks : List Key) :
    paramMisuses first ks = [] ↔
      Key.error ∉ ks ∧ Key.context ∉ if first then ks.tail else ks := by
  induction ks generalizing first with
  | nil => cases first <;> simp [paramMisuses]
  | cons k ks ih =>
    cases first <;> cases k <;> simp [paramMisuses, ih false]

theorem resultMisuses_eq_nil (ks : List Key) :
    resultMisuses ks = [] ↔ Key.error ∉ ks.dropLast ∧ Key.context ∉ ks := by
  induction ks with
  | nil => simp [resultMisuses]
  | cons k ks ih =>
    cases ks with
    | nil => cases k <;> simp [resultMisuses]
    | cons k' ks => cases k <;> simp [resultMisuses] at ih ⊢ <;> simp [ih]

theorem misuses_eq_nil (s : Signature) : s.misuses = [] ↔ s.WellShaped := by
  unfold misuses
  split
  · rename_i variadic
    refine ⟨nofun, fun shaped => ?_⟩
    rw [shaped.fixed] at variadic
    cases variadic
  · rename_i fixed
    rw [List.append_eq_nil_iff, paramMisuses_eq_nil, resultMisuses_eq_nil]
    constructor
    · rintro ⟨⟨error, context⟩, errorLast, noContext⟩
      exact ⟨by simpa using fixed, context, error, errorLast, noContext⟩
    · intro shaped
      exact ⟨⟨shaped.noErrorParam, shaped.contextFirst⟩, shaped.errorLast, shaped.noContextResult⟩

end Signature

/-- A predicate takes no context, and returns one `bool` and no error. -/
structure PredicateDecl.WellDeclared (p : PredicateDecl) : Prop where
  shaped : p.signature.WellShaped
  noContext : p.signature.wantsContext = false
  bool : p.signature.outputs = [Key.bool]
  noError : p.signature.hasError = false

theorem PredicateDecl.issues_eq_nil (p : PredicateDecl) : p.issues = [] ↔ p.WellDeclared := by
  rw [issues, List.map_eq_nil_iff, problems]
  split
  · rename_i shaped
    rw [List.append_eq_nil_iff, Signature.misuses_eq_nil] at *
    constructor
    · rintro ⟨context, result⟩
      have context : p.signature.wantsContext = false := by
        by_contra wants
        rw [Bool.not_eq_false] at wants
        rw [if_pos wants] at context
        cases context
      have result : p.returnsBool = true := by
        by_contra other
        rw [if_neg other] at result
        cases result
      rw [returnsBool, Bool.and_eq_true, Bool.not_eq_true', beq_iff_eq] at result
      exact ⟨shaped, context, result.2, result.1⟩
    · intro declared
      have result : p.returnsBool = true := by
        rw [returnsBool, declared.noError, declared.bool]
        rfl
      rw [if_neg (by rw [declared.noContext]; decide), if_pos result]
      exact ⟨rfl, rfl⟩
  · rename_i misused
    rw [List.map_eq_nil_iff]
    constructor
    · intro noMisuse
      exact absurd noMisuse misused
    · intro declared
      exact absurd ((Signature.misuses_eq_nil _).mpr declared.shaped) misused

namespace TaskDecl

/-- A declaration that is sound in itself: a value is returned unless the task is run for its
effects, and values that stand in are those of the results of a task that can fail. -/
structure WellDeclared (t : TaskDecl) : Prop where
  shaped : t.signature.WellShaped
  invoke : t.signature.outputs = [] ↔ t.invoke = true
  fallback : ∀ given, t.fallback = some given →
    t.signature.hasError = true ∧ given = t.signature.outputs
  predicate : ∀ p, t.predicate = some p → p.WellDeclared

theorem invokeIssues_eq_nil (t : TaskDecl) :
    t.invokeIssues = [] ↔ (t.signature.outputs = [] ↔ t.invoke = true) := by
  unfold invokeIssues
  cases t.invoke <;> cases t.signature.outputs <;> simp

theorem fallbackMismatches_eq_nil (i : Nat) (given wanted : List Key)
    (length : given.length = wanted.length) :
    fallbackMismatches i given wanted = [] ↔ given = wanted := by
  induction given generalizing i wanted with
  | nil =>
    rw [List.length_nil, eq_comm, List.length_eq_zero_iff] at length
    rw [length]
    simp [fallbackMismatches]
  | cons k given ih =>
    cases wanted with
    | nil => cases length
    | cons k' wanted =>
      rw [fallbackMismatches, List.append_eq_nil_iff, ih (i + 1) wanted (by simpa using length)]
      by_cases same : k = k' <;> simp [same]

theorem fallbackProblems_eq_nil (t : TaskDecl) :
    t.fallbackProblems = [] ↔ ∀ given, t.fallback = some given →
      t.signature.hasError = true ∧ given = t.signature.outputs := by
  unfold fallbackProblems
  cases t.fallback with
  | none => simp
  | some given =>
    simp only [Option.some.injEq, forall_eq']
    rw [List.append_eq_nil_iff]
    refine and_congr ?_ ?_
    · cases t.signature.hasError <;> simp
    · by_cases length : given.length = t.signature.outputs.length
      · rw [if_pos length, fallbackMismatches_eq_nil 0 _ _ length]
      · rw [if_neg length]
        refine ⟨nofun, fun same => ?_⟩
        exact absurd (congrArg List.length same) length

theorem issues_eq_nil (t : TaskDecl) : t.issues = [] ↔ t.WellDeclared := by
  unfold issues
  split
  · rename_i shaped
    rw [Signature.misuses_eq_nil] at shaped
    rw [List.append_eq_nil_iff, List.append_eq_nil_iff, List.map_eq_nil_iff, invokeIssues_eq_nil,
      fallbackProblems_eq_nil]
    constructor
    · rintro ⟨⟨invoke, fallback⟩, predicate⟩
      refine ⟨shaped, invoke, fallback, fun p gated => ?_⟩
      rw [gated] at predicate
      exact p.issues_eq_nil.mp predicate
    · intro declared
      refine ⟨⟨declared.invoke, declared.fallback⟩, ?_⟩
      cases gated : t.predicate with
      | none => rfl
      | some p => exact p.issues_eq_nil.mpr (declared.predicate p gated)
  · rename_i misused
    rw [List.map_eq_nil_iff]
    constructor
    · intro noMisuse
      exact absurd noMisuse misused
    · intro declared
      exact absurd ((Signature.misuses_eq_nil _).mpr declared.shaped) misused

end TaskDecl

end KeyFlow
