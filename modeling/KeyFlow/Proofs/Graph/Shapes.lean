import KeyFlow.Proofs.Graph.Malformed
import KeyFlow.Proofs.Graph.Represented
import KeyFlow.Proofs.Signature

/-!
What compiling makes of signatures. Each problem of a signature without a shape is an issue, and the
tasks of a graph keep all that a signature with one says.
-/

namespace KeyFlow

/-- What a task keeps of the signature that it was declared with. -/
def Task.shape (task : Task) : Shape :=
  ⟨task.inputs, task.outputs, task.wantsContext, task.hasError⟩

theorem Task.Describes.shape_eq {task : Task} {ordinal : Nat} {t : TaskDecl}
    (describes : task.Describes ordinal t) (declared : t.WellDeclared) :
    t.signature.shape = .ok task.shape := by
  rw [declared.shaped.shape_eq, Task.shape, describes.inputs, describes.outputs,
    describes.wantsContext, describes.hasError]

/-- The issues of a declaration about its signature are the problems of the signature. -/
theorem TaskDecl.signature_issues (t : TaskDecl) :
    t.issues.filter (·.problem.kind = .invalidSignature) =
      t.signature.problems.map (⟨t.location, .taskSignature ·⟩) := by
  rw [Signature.problems_eq]
  by_cases shaped : t.signature.WellShaped
  · rw [t.signature.misuses_eq_nil.mpr shaped, List.map_nil, List.filter_eq_nil_iff]
    intro i mem kind
    have here : Issue.Among i.problem.kind i.location t.issues := ⟨i, mem, rfl, rfl⟩
    rw [of_decide_eq_true kind] at here
    rcases (issues_of_shaped shaped).mp here with
      ⟨_, other, _⟩ | ⟨_, other, _⟩ | ⟨_, _, _, other, _⟩
    all_goals cases other
  · rw [← t.signature.misuses_eq_nil] at shaped
    unfold issues
    split
    · rename_i noMisuse
      exact absurd noMisuse shaped
    · exact List.filter_eq_self.mpr (List.forall_mem_map.mpr fun _ _ => rfl)

namespace Spec

variable {s : Spec} {d : Draft}

/-- What compiling finds wrong with signatures are their problems, task by task. -/
theorem signature_issues (drafted : s.draft = .ok d) :
    d.allIssues.filter (·.problem.kind = .invalidSignature) =
      s.tasks.flatMap fun t => t.signature.problems.map (⟨t.location, .taskSignature ·⟩) := by
  have narrower : d.allIssues.filter (·.problem.kind = .invalidSignature) =
      (d.allIssues.filter (·.ofDeclaration)).filter (·.problem.kind = .invalidSignature) := by
    rw [List.filter_filter]
    refine List.filter_congr fun i _ => ?_
    by_cases kind : i.problem.kind = .invalidSignature
    · simp [kind, Issue.ofDeclaration, ProblemKind.ofDeclaration]
    · simp [kind]
  rw [narrower, allIssues_malformed drafted, List.filter_flatMap]
  simp only [TaskDecl.signature_issues]

/-- From the tasks of a graph the signatures of all sound declarations can be made again. -/
theorem tasks_keep_signatures (drafted : s.draft = .ok d) :
    List.Forall₂ (fun task t => task.shape.Of t.1.signature) d.graph.tasks s.sound := by
  have all : ∀ t ∈ s.sound, t.1.WellDeclared := fun t mem =>
    of_decide_eq_true (List.mem_filter.mp mem).2
  have both := (List.forall₂_and_left (s.sound) d.graph.tasks).mpr
    ⟨all, (draft_represents drafted).tasks.flip⟩
  exact (both.imp fun t task h => Signature.shape_eq_ok_iff.mp (h.2.shape_eq h.1)).flip

end Spec

end KeyFlow
