import KeyFlow.Plan
import KeyFlow.Proofs.Graph.Entered
import KeyFlow.Proofs.Graph.Kinds

/-!
What holds of the draft of any description, whatever was found wrong in it: providers and tasks are
at nodes of the graph, and no issue of a declaration or of a key is that of a cycle.
-/

namespace KeyFlow

namespace Issue

/-- The issue is not that of a cycle. -/
def IsLocal (i : Issue) : Prop := i.diagnostic.isCycle = false

@[simp] theorem isLocal_iff (i : Issue) : i.IsLocal ↔ ∀ chain, i.problem ≠ .cycle chain := by
  obtain ⟨location, problem⟩ := i
  cases problem <;> simp [IsLocal, diagnostic, Diagnostic.isCycle, Problem.kind]

end Issue

theorem TaskDecl.issues_isLocal (t : TaskDecl) : ∀ i ∈ t.issues, i.IsLocal := by
  intro i mem
  rw [Issue.isLocal_iff]
  intro chain cycle
  have declaration := t.issues_ofDeclaration i mem
  rw [Issue.ofDeclaration, cycle] at declaration
  cases declaration

namespace Graph

theorem unusedOutputs_kind (g : Graph) : ∀ i ∈ g.unusedOutputs, i.problem.kind = .unusedOutput := by
  intro i mem
  obtain ⟨n, _, mem⟩ := List.mem_flatMap.mp mem
  obtain ⟨k, _, rfl⟩ := List.mem_map.mp mem
  rfl

theorem missingProviders_kind (g : Graph) :
    ∀ i ∈ g.missingProviders, i.problem.kind = .missingProvider := by
  intro i mem
  obtain ⟨⟨k, placed⟩, _, found⟩ := List.mem_filterMap.mp mem
  simp only [Option.ite_none_right_eq_some, Option.some.injEq] at found
  rw [← found.2]
  rfl

theorem unusedAmong_kind (settled : List Key) (declared : List Declared) :
    ∀ i ∈ unusedAmong settled declared, i.problem.kind = .unusedInput := by
  fun_induction unusedAmong settled declared with
  | case1 => simp
  | case2 settled d declared known ih => exact ih
  | case3 settled d declared unknown ih => exact List.forall_mem_cons.mpr ⟨rfl, ih⟩

theorem unusedInputs_kind (g : Graph) : ∀ i ∈ g.unusedInputs, i.problem.kind = .unusedInput :=
  unusedAmong_kind _ _

/-- What coverage is about. -/
theorem coverageIssues_kind (g : Graph) : ∀ i ∈ g.coverageIssues,
    i.problem.kind = .unusedOutput ∨ i.problem.kind = .missingProvider ∨
      i.problem.kind = .unusedInput := by
  intro i mem
  rcases List.mem_append.mp mem with keys | inputs
  · rcases List.mem_append.mp keys with outputs | missing
    · exact .inl (g.unusedOutputs_kind i outputs)
    · exact .inr (.inl (g.missingProviders_kind i missing))
  · exact .inr (.inr (g.unusedInputs_kind i inputs))

theorem coverageIssues_isLocal (g : Graph) : ∀ i ∈ g.coverageIssues, i.IsLocal := by
  intro i mem
  rw [Issue.isLocal_iff]
  intro chain cycle
  have kind := g.coverageIssues_kind i mem
  rw [cycle] at kind
  rcases kind with kind | kind | kind <;> cases kind

end Graph

namespace Draft

/-- What no step of the making breaks. -/
structure Kept (d : Draft) : Prop where
  inRange : d.graph.InRange
  issues : ∀ i ∈ d.issues, i.IsLocal

/-- More issues of the local kind. -/
theorem Kept.report {d : Draft} (kept : d.Kept) {more : List Issue}
    (isLocal : ∀ i ∈ more, i.IsLocal) : Kept { d with issues := d.issues ++ more } where
  inRange := kept.inRange
  issues := List.forall_mem_append.mpr ⟨kept.issues, isLocal⟩

theorem Kept.addInputs {d : Draft} (kept : d.Kept) (inputs : List Declared) :
    (inputs.foldl addInput d).Kept := by
  induction inputs generalizing d with
  | nil => exact kept
  | cons input inputs ih =>
    refine ih ?_
    unfold addInput
    split
    · exact kept.report (by simp)
    · exact ⟨⟨kept.inRange.providers, kept.inRange.tasks⟩, kept.issues⟩

theorem Kept.addOutputs {d : Draft} (kept : d.Kept) (outputs : List Declared) :
    (outputs.foldl addOutput d).Kept := by
  induction outputs generalizing d with
  | nil => exact kept
  | cons output outputs ih =>
    refine ih ?_
    unfold addOutput
    split
    · exact kept.report (by simp)
    · exact ⟨⟨kept.inRange.providers, kept.inRange.tasks⟩, kept.issues⟩

theorem Kept.withTask {d : Draft} (kept : d.Kept) (ordinal : Nat) (t : TaskDecl) :
    (d.withTask ordinal t).Kept where
  inRange := withTask_inRange kept.inRange ordinal t
  issues := by
    obtain ⟨more, issues, kind⟩ := d.withNodes_issues (nodesOf d.graph.tasks.length ordinal t)
    rw [show (d.withTask ordinal t).issues = _ from issues]
    refine List.forall_mem_append.mpr ⟨kept.issues, fun i mem => ?_⟩
    rw [Issue.isLocal_iff]
    intro chain cycle
    have about := kind i mem
    rw [cycle] at about
    cases about

theorem Kept.addTask {d d' : Draft} (kept : d.Kept) {ordinal : Nat} {t : TaskDecl}
    (h : d.addTask ordinal t = .ok d') : d'.Kept := by
  rcases addTask_cases kept.inRange h with ⟨_, rfl⟩ | ⟨_, _, rfl⟩
  · exact kept.report t.issues_isLocal
  · exact kept.withTask ordinal t

theorem Kept.addTasks {d d' : Draft} (kept : d.Kept) {ordinal : Nat} {ts : List TaskDecl}
    (h : d.addTasks ordinal ts = .ok d') : d'.Kept := by
  induction ts generalizing d ordinal with
  | nil =>
    cases h
    exact kept
  | cons t ts ih =>
    rw [Draft.addTasks] at h
    cases added : d.addTask ordinal t with
    | error f =>
      rw [added] at h
      cases h
    | ok d₁ =>
      rw [added] at h
      exact ih (kept.addTask added) h

end Draft

namespace Spec

/-- The draft of a flow before any task is declared. -/
def opening (s : Spec) : Draft :=
  s.outputs.foldl Draft.addOutput (s.inputs.foldl Draft.addInput ⟨s.emptyGraph, []⟩)

theorem opening_kept (s : Spec) : s.opening.Kept := by
  have new : Draft.Kept ⟨s.emptyGraph, []⟩ :=
    ⟨⟨by simp [emptyGraph], by simp [emptyGraph]⟩, by simp⟩
  exact (new.addInputs s.inputs).addOutputs s.outputs

variable {s : Spec} {d : Draft}

theorem draft_kept (drafted : s.draft = .ok d) : d.Kept := s.opening_kept.addTasks drafted

/-- Compiling ends with issues, and this is one of them. -/
def Finds (s : Spec) (i : Issue) : Prop :=
  ∃ found, s.compile = .error (.issues found) ∧ i ∈ found

theorem finds_iff (drafted : s.draft = .ok d) {i : Issue} : s.Finds i ↔ i ∈ d.allIssues := by
  simp only [Finds, compile, drafted]
  cases d.allIssues with
  | nil => simp
  | cons issue more => simp

end Spec

end KeyFlow
