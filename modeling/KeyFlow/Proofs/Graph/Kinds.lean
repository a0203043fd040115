import KeyFlow.Graph.Cycle
import KeyFlow.Proofs.Graph.Declared

/-!
The kinds and the places of the issues that the checks of a single declaration make. A check hides
another in one case only: of a task whose signature has no shape the invocation, the fallback and
the predicate are not looked at.
-/

namespace KeyFlow

/-- The kinds of what is wrong with a declaration taken by itself. -/
def ProblemKind.ofDeclaration : ProblemKind → Bool
  | .invalidSignature | .invalidPredicate | .invalidFallback | .invalidInvoke => true
  | _ => false

namespace Issue

def ofDeclaration (i : Issue) : Bool := i.problem.kind.ofDeclaration

/-- Among the issues is one of this kind at this place. -/
def Among (kind : ProblemKind) (l : Location) (found : List Issue) : Prop :=
  ∃ i ∈ found, i.location = l ∧ i.problem.kind = kind

variable {kind kind' : ProblemKind} {l l' : Location} {found more : List Issue}

theorem among_nil : ¬ Among kind l [] := by simp [Among]

theorem among_append : Among kind l (found ++ more) ↔ Among kind l found ∨ Among kind l more := by
  simp only [Among, List.mem_append, or_and_right, exists_or]

theorem among_flatMap {α : Type} {as : List α} {f : α → List Issue} :
    Among kind l (as.flatMap f) ↔ ∃ a ∈ as, Among kind l (f a) := by
  constructor
  · rintro ⟨i, mem, here⟩
    obtain ⟨a, listed, mem⟩ := List.mem_flatMap.mp mem
    exact ⟨a, listed, i, mem, here⟩
  · rintro ⟨a, listed, i, mem, here⟩
    exact ⟨i, List.mem_flatMap.mpr ⟨a, listed, mem⟩, here⟩

/-- Issues that are all of one kind and at one place. -/
theorem among_of_all (all : ∀ i ∈ found, i.location = l' ∧ i.problem.kind = kind') :
    Among kind l found ↔ l' = l ∧ kind = kind' ∧ found ≠ [] := by
  constructor
  · rintro ⟨i, mem, rfl, rfl⟩
    exact ⟨(all i mem).1.symm, (all i mem).2, List.ne_nil_of_mem mem⟩
  · rintro ⟨rfl, rfl, nonempty⟩
    obtain ⟨i, mem⟩ := List.exists_mem_of_ne_nil _ nonempty
    exact ⟨i, mem, all i mem⟩

theorem among_map {α : Type} {as : List α} {f : α → Problem}
    (all : ∀ a ∈ as, (f a).kind = kind') :
    Among kind l (as.map fun a => ⟨l', f a⟩) ↔ l' = l ∧ kind = kind' ∧ as ≠ [] := by
  have each : ∀ i ∈ as.map fun a => (⟨l', f a⟩ : Issue), i.location = l' ∧ i.problem.kind = kind' :=
    List.forall_mem_map.mpr fun a mem => ⟨rfl, all a mem⟩
  rw [among_of_all each, ne_eq, List.map_eq_nil_iff]

theorem among_filter (declaration : kind.ofDeclaration = true) :
    Among kind l (found.filter (·.ofDeclaration)) ↔ Among kind l found := by
  constructor
  · rintro ⟨i, mem, here⟩
    exact ⟨i, List.mem_of_mem_filter mem, here⟩
  · rintro ⟨i, mem, placed, rfl⟩
    exact ⟨i, List.mem_filter.mpr ⟨mem, declaration⟩, placed, rfl⟩

end Issue

open Issue

/-! ## One declaration -/

theorem PredicateDecl.problems_kind (p : PredicateDecl) :
    ∀ problem ∈ p.problems, problem.kind = .invalidPredicate := by
  unfold problems
  split
  · refine List.forall_mem_append.mpr ⟨?_, ?_⟩ <;> split <;> simp [Problem.kind]
  · exact List.forall_mem_map.mpr fun _ _ => rfl

theorem PredicateDecl.among_issues {p : PredicateDecl} {kind : ProblemKind} {l : Location} :
    Among kind l p.issues ↔ p.location = l ∧ kind = .invalidPredicate ∧ ¬ p.WellDeclared := by
  rw [← p.issues_eq_nil, issues, among_map p.problems_kind, ne_eq, List.map_eq_nil_iff]

namespace TaskDecl

variable {kind : ProblemKind} {l : Location}

theorem invokeIssues_all (t : TaskDecl) :
    ∀ i ∈ t.invokeIssues, i.location = t.location ∧ i.problem.kind = .invalidInvoke := by
  refine List.forall_mem_append.mpr ⟨?_, ?_⟩ <;> split <;> simp [Problem.kind]

theorem fallbackMismatches_kind (n : Nat) (given wanted : List Key) :
    ∀ p ∈ fallbackMismatches n given wanted, p.kind = .invalidFallback := by
  fun_induction fallbackMismatches n given wanted with
  | case1 n k given k' wanted ih =>
    refine List.forall_mem_append.mpr ⟨?_, ih⟩
    split <;> simp [Problem.kind]
  | case2 => simp

theorem fallbackProblems_kind (t : TaskDecl) :
    ∀ p ∈ t.fallbackProblems, p.kind = .invalidFallback := by
  unfold fallbackProblems
  split
  · simp
  · refine List.forall_mem_append.mpr ⟨?_, ?_⟩
    · split <;> simp [Problem.kind]
    · split
      · exact fallbackMismatches_kind 0 _ _
      · simp [Problem.kind]

/-- A declaration whose signature has no shape is asked for nothing else. -/
theorem issues_of_shapeless {t : TaskDecl} (shapeless : ¬ t.signature.WellShaped) :
    Among kind l t.issues ↔ t.location = l ∧ kind = .invalidSignature := by
  rw [← Signature.misuses_eq_nil] at shapeless
  unfold issues
  split
  · rename_i noMisuse
    exact absurd noMisuse shapeless
  · refine (among_map (f := Problem.taskSignature) fun _ _ => rfl).trans ?_
    rw [and_iff_left shapeless]

/-- Each other check is made whatever the ones before it found. -/
theorem issues_of_shaped {t : TaskDecl} (shaped : t.signature.WellShaped) :
    Among kind l t.issues ↔
      (t.location = l ∧ kind = .invalidInvoke ∧
        ¬ (t.signature.outputs = [] ↔ t.invoke = true)) ∨
      (t.location = l ∧ kind = .invalidFallback ∧ ∃ given, t.fallback = some given ∧
        ¬ (t.signature.hasError = true ∧ given = t.signature.outputs)) ∨
      ∃ p, t.predicate = some p ∧ p.location = l ∧ kind = .invalidPredicate ∧
        ¬ p.WellDeclared := by
  have fallback : t.fallbackProblems ≠ [] ↔ ∃ given, t.fallback = some given ∧
      ¬ (t.signature.hasError = true ∧ given = t.signature.outputs) := by
    rw [ne_eq, fallbackProblems_eq_nil]
    simp only [not_forall, exists_prop]
  have predicate : Among kind l (t.predicate.elim [] PredicateDecl.issues) ↔
      ∃ p, t.predicate = some p ∧ p.location = l ∧ kind = .invalidPredicate ∧
        ¬ p.WellDeclared := by
    cases t.predicate with
    | none => simp [among_nil]
    | some p =>
      simp only [Option.some.injEq, exists_eq_left']
      exact p.among_issues
  have all : t.issues = t.invokeIssues ++ t.fallbackProblems.map (⟨t.location, ·⟩) ++
      t.predicate.elim [] PredicateDecl.issues := by
    rw [issues, t.signature.misuses_eq_nil.mpr shaped]
    cases t.predicate <;> rfl
  rw [all, among_append, among_append, or_assoc, among_of_all t.invokeIssues_all,
    among_map t.fallbackProblems_kind, fallback, ne_eq, invokeIssues_eq_nil]
  exact or_congr Iff.rfl (or_congr Iff.rfl predicate)

theorem issues_ofDeclaration (t : TaskDecl) : ∀ i ∈ t.issues, i.ofDeclaration = true := by
  intro i mem
  have here : Among i.problem.kind i.location t.issues := ⟨i, mem, rfl, rfl⟩
  unfold Issue.ofDeclaration
  by_cases shaped : t.signature.WellShaped
  · rcases (issues_of_shaped shaped).mp here with
      ⟨_, kind, _⟩ | ⟨_, kind, _⟩ | ⟨_, _, _, kind, _⟩
    all_goals rw [kind]; rfl
  · rw [((issues_of_shapeless shaped).mp here).2]
    rfl

end TaskDecl

end KeyFlow
