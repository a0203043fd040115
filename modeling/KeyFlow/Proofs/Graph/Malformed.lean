import KeyFlow.Proofs.Graph.InRange

/-!
Which malformed declarations compiling reports. Each declaration is asked for all that is wrong with
it whatever was found before, so the issues of a kind at a place are those of the declarations
there.
-/

namespace KeyFlow

open Issue

namespace Draft

/-- What was found wrong with declarations taken by themselves. -/
def malformed (d : Draft) : List Issue := d.issues.filter (·.ofDeclaration)

variable {d d' : Draft}

theorem addInputs_malformed (inputs : List Declared) :
    (inputs.foldl addInput d).malformed = d.malformed := by
  induction inputs generalizing d with
  | nil => rfl
  | cons input inputs ih =>
    rw [List.foldl_cons, ih, addInput]
    split
    · simp [malformed, Issue.ofDeclaration, Problem.kind, ProblemKind.ofDeclaration]
    · rfl

theorem addOutputs_malformed (outputs : List Declared) :
    (outputs.foldl addOutput d).malformed = d.malformed := by
  induction outputs generalizing d with
  | nil => rfl
  | cons output outputs ih =>
    rw [List.foldl_cons, ih, addOutput]
    split
    · simp [malformed, Issue.ofDeclaration, Problem.kind, ProblemKind.ofDeclaration]
    · rfl

/-- A declaration adds all that is wrong with it, whatever was found before. -/
theorem Kept.addTask_malformed (kept : d.Kept) {ordinal : Nat} {t : TaskDecl}
    (added : d.addTask ordinal t = .ok d') : d'.malformed = d.malformed ++ t.issues := by
  rcases addTask_cases kept.inRange added with ⟨_, rfl⟩ | ⟨declared, _, rfl⟩
  · rw [malformed, List.filter_append, malformed,
      List.filter_eq_self.mpr t.issues_ofDeclaration]
  · obtain ⟨more, issues, kind⟩ := d.withNodes_issues (nodesOf d.graph.tasks.length ordinal t)
    have others : more.filter (·.ofDeclaration) = [] := by
      refine List.filter_eq_nil_iff.mpr fun i mem => ?_
      rw [Issue.ofDeclaration, kind i mem]
      exact Bool.false_ne_true
    rw [t.issues_eq_nil.mpr declared, List.append_nil, malformed, Draft.withTask, issues,
      List.filter_append, others, List.append_nil, malformed]

theorem Kept.addTasks_malformed (kept : d.Kept) {ordinal : Nat} {ts : List TaskDecl}
    (added : d.addTasks ordinal ts = .ok d') :
    d'.malformed = d.malformed ++ ts.flatMap TaskDecl.issues := by
  induction ts generalizing d ordinal with
  | nil =>
    cases added
    rw [List.flatMap_nil, List.append_nil]
  | cons t ts ih =>
    rw [Draft.addTasks] at added
    cases first : d.addTask ordinal t with
    | error f =>
      rw [first] at added
      cases added
    | ok d₁ =>
      rw [first] at added
      rw [ih (kept.addTask first) added, kept.addTask_malformed first, List.flatMap_cons,
        List.append_assoc]

end Draft

namespace Spec

variable {s : Spec} {d : Draft}

theorem draft_malformed (drafted : s.draft = .ok d) :
    d.malformed = s.tasks.flatMap TaskDecl.issues := by
  have unmalformed : s.opening.malformed = [] := by
    rw [opening, Draft.addOutputs_malformed, Draft.addInputs_malformed]
    rfl
  rw [s.opening_kept.addTasks_malformed drafted, unmalformed, List.nil_append]

/-- The issues of declarations among all that compiling finds. -/
theorem allIssues_malformed (drafted : s.draft = .ok d) :
    d.allIssues.filter (·.ofDeclaration) = s.tasks.flatMap TaskDecl.issues := by
  have coverage : d.graph.coverageIssues.filter (·.ofDeclaration) = [] := by
    refine List.filter_eq_nil_iff.mpr fun i mem => ?_
    rw [Issue.ofDeclaration]
    rcases d.graph.coverageIssues_kind i mem with kind | kind | kind
    all_goals rw [kind]; exact Bool.false_ne_true
  have cycle : (d.graph.findCycle.toList.map Cycle.issue).filter (·.ofDeclaration) = [] :=
    List.filter_eq_nil_iff.mpr (List.forall_mem_map.mpr fun _ _ => Bool.false_ne_true)
  rw [Draft.allIssues, List.filter_append, List.filter_append, coverage, cycle, List.append_nil,
    List.append_nil, ← draft_malformed drafted, Draft.malformed]

/-- Compiling ends with an issue of this kind at this place. -/
def Reports (s : Spec) (kind : ProblemKind) (l : Location) : Prop :=
  ∃ i, s.Finds i ∧ i.location = l ∧ i.problem.kind = kind

theorem reports_iff (drafted : s.draft = .ok d) {kind : ProblemKind} {l : Location}
    (declaration : kind.ofDeclaration = true) :
    s.Reports kind l ↔ ∃ t ∈ s.tasks, Among kind l t.issues := by
  rw [← among_flatMap, ← allIssues_malformed drafted, among_filter declaration]
  simp only [Reports, finds_iff drafted, Among]

/-- Where the making of the graph ends in no fault, compiling reports a malformed signature at a
place just if a declaration there has one, and an invocation, a fallback or a predicate that does
not fit just if it belongs to a declaration whose signature has a shape. -/
theorem malformed_declarations_are_reported (s : Spec) (d : Draft) (drafted : s.draft = .ok d)
    (l : Location) :
    (s.Reports .invalidSignature l ↔
      ∃ t ∈ s.tasks, t.location = l ∧ ¬ t.signature.WellShaped) ∧
    (s.Reports .invalidInvoke l ↔
      ∃ t ∈ s.tasks, t.location = l ∧ t.signature.WellShaped ∧
        ¬ (t.signature.outputs = [] ↔ t.invoke = true)) ∧
    (s.Reports .invalidFallback l ↔
      ∃ t ∈ s.tasks, t.location = l ∧ t.signature.WellShaped ∧
        ∃ given, t.fallback = some given ∧
          ¬ (t.signature.hasError = true ∧ given = t.signature.outputs)) ∧
    (s.Reports .invalidPredicate l ↔
      ∃ t ∈ s.tasks, t.signature.WellShaped ∧
        ∃ p, t.predicate = some p ∧ p.location = l ∧ ¬ p.WellDeclared) := by
  refine ⟨?_, ?_, ?_, ?_⟩
  all_goals
    rw [reports_iff drafted rfl]
    refine exists_congr fun t => and_congr_right fun _ => ?_
    by_cases shaped : t.signature.WellShaped
    · rw [TaskDecl.issues_of_shaped shaped]
      simp [shaped]
    · rw [TaskDecl.issues_of_shapeless shaped]
      simp [shaped]

/-- A task with a misplaced marker, and one with a shape where all the rest is wrong. -/
def sloppySpec : Spec where
  name := "sloppy"
  location := ⟨"flow", 1, 1⟩
  inputs := []
  outputs := []
  tasks := [
    { location := ⟨"flow", 2, 1⟩, signature := ⟨[], [.error, .named "left"], false⟩ },
    { location := ⟨"flow", 3, 1⟩
      signature := ⟨[], [.named "right"], false⟩
      predicate := some ⟨⟨"flow", 4, 1⟩, ⟨[.context], [], false⟩⟩
      fallback := some []
      invoke := true }]

theorem malformed_declarations_are_reported_sloppy :
    (∃ d, sloppySpec.draft = .ok d) ∧
      sloppySpec.Reports .invalidSignature ⟨"flow", 2, 1⟩ ∧
      sloppySpec.Reports .invalidInvoke ⟨"flow", 3, 1⟩ ∧
      sloppySpec.Reports .invalidFallback ⟨"flow", 3, 1⟩ ∧
      sloppySpec.Reports .invalidPredicate ⟨"flow", 4, 1⟩ := by
  have drafted : sloppySpec.draft = .ok _ := rfl
  have reports := malformed_declarations_are_reported sloppySpec _ drafted
  have second : sloppySpec.tasks[1] ∈ sloppySpec.tasks := List.getElem_mem _
  have shaped : sloppySpec.tasks[1].signature.WellShaped := by constructor <;> decide
  refine ⟨⟨_, drafted⟩, ?_, ?_, ?_, ?_⟩
  · refine (reports _).1.mpr ⟨_, List.mem_cons_self .., rfl, fun shaped => ?_⟩
    exact absurd shaped.errorLast (by decide)
  · exact (reports _).2.1.mpr ⟨_, second, rfl, shaped, by decide⟩
  · exact (reports _).2.2.1.mpr ⟨_, second, rfl, shaped, _, rfl, by decide⟩
  · refine (reports _).2.2.2.mpr ⟨_, second, shaped, _, rfl, rfl, fun declared => ?_⟩
    exact absurd declared.bool (by decide)

/-- A task with a misplaced marker, and below it a predicate that returns nothing. -/
def shapelessSpec : Spec where
  name := "shapeless"
  location := ⟨"flow", 1, 1⟩
  inputs := []
  outputs := []
  tasks := [
    { location := ⟨"flow", 2, 1⟩
      signature := ⟨[.error], [.named "out"], false⟩
      predicate := some ⟨⟨"flow", 3, 1⟩, ⟨[], [], false⟩⟩ }]

/-- Nothing is said of the predicate, although it is malformed: the signature above it is too. -/
theorem shapeless_hides_predicate :
    (∃ d, shapelessSpec.draft = .ok d) ∧
      (∃ t ∈ shapelessSpec.tasks, ∃ p, t.predicate = some p ∧ p.location = ⟨"flow", 3, 1⟩ ∧
        ¬ p.WellDeclared) ∧
      ¬ shapelessSpec.Reports .invalidPredicate ⟨"flow", 3, 1⟩ := by
  have drafted : shapelessSpec.draft = .ok _ := rfl
  refine ⟨⟨_, drafted⟩, ⟨_, List.mem_singleton_self _, _, rfl, rfl, fun declared => ?_⟩, ?_⟩
  · exact absurd declared.bool (by decide)
  · rw [reports_iff drafted rfl, shapelessSpec]
    simp only [List.mem_singleton, exists_eq_left, Among]
    decide

end Spec

end KeyFlow
