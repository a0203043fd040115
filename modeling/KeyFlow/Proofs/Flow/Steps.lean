import KeyFlow.Proofs.Flow.Evaluation
import KeyFlow.Proofs.Lookup

/-!
The evaluation of the nodes that have jobs, step by step. What the evaluation ends with is what each
of its steps came to, and a step sees no more than the steps before it.
-/

namespace KeyFlow

namespace Flow

variable {f : Flow} {inputs : List (Key × Value)}

/-- The evaluation of the first `j` nodes. -/
def upTo (f : Flow) (inputs : List (Key × Value)) (j : Nat) : Evaluation :=
  f.evaluateAll inputs (f.plan.enqueueOrder.take j)

/-- What the node at this place in the order came to. -/
def resultAt (f : Flow) (inputs : List (Key × Value)) (j : Nat) : Result :=
  match f.plan.enqueueOrder[j]? with
  | some id => f.resultOf (f.upTo inputs j) id
  | none => (.skipped, [])

theorem resultAt_eq {j : Nat} {id : NodeId} (placed : f.plan.enqueueOrder[j]? = some id) :
    f.resultAt inputs j = f.resultOf (f.upTo inputs j) id := by
  rw [resultAt, placed]

theorem resultAt_of_le {j : Nat} (le : f.plan.enqueueOrder.length ≤ j) :
    f.resultAt inputs j = (.skipped, []) := by
  rw [resultAt, List.getElem?_eq_none_iff.mpr le]

theorem upTo_succ {j : Nat} {id : NodeId} (placed : f.plan.enqueueOrder[j]? = some id) :
    f.upTo inputs (j + 1) = (f.upTo inputs j).add id (f.resultAt inputs j) := by
  obtain ⟨inRange, rfl⟩ := List.getElem?_eq_some_iff.mp placed
  rw [resultAt_eq placed, upTo, upTo, evaluateAll, List.take_succ_eq_append_getElem inRange,
    List.foldl_append]
  rfl

theorem upTo_of_le {j : Nat} (le : f.plan.enqueueOrder.length ≤ j) :
    f.upTo inputs (j + 1) = f.upTo inputs j := by
  rw [upTo, upTo, List.take_of_length_le le, List.take_of_length_le (by omega)]

theorem evaluateJobs_eq (f : Flow) (inputs : List (Key × Value)) :
    f.evaluateJobs inputs = f.upTo inputs f.plan.enqueueOrder.length := by
  rw [evaluateJobs, upTo, List.take_length]

theorem upTo_marks (j : Nat) : (f.upTo inputs (j + 1)).marks =
    (f.upTo inputs j).marks ++ (f.resultAt inputs j).2 := by
  cases placed : f.plan.enqueueOrder[j]? with
  | some id =>
    rw [upTo_succ placed]
    rfl
  | none =>
    have le := List.getElem?_eq_none_iff.mp placed
    rw [upTo_of_le le, resultAt_of_le le, List.append_nil]

/-- What is there comes from the inputs or from an earlier step. -/
theorem mem_marks {j : Nat} {w : Key × Mark} : w ∈ (f.upTo inputs j).marks ↔
    w ∈ marked inputs ∨ ∃ i < j, w ∈ (f.resultAt inputs i).2 := by
  induction j with
  | zero =>
    constructor
    · exact .inl
    · rintro (input | ⟨i, lt, _⟩)
      · exact input
      · omega
  | succ j ih =>
    rw [upTo_marks, List.mem_append, ih, or_assoc]
    refine or_congr Iff.rfl ⟨?_, ?_⟩
    · rintro (⟨i, lt, mem⟩ | mem)
      · exact ⟨i, by omega, mem⟩
      · exact ⟨j, by omega, mem⟩
    · rintro ⟨i, lt, mem⟩
      by_cases last : i = j
      · exact .inr (last ▸ mem)
      · exact .inl ⟨i, by omega, mem⟩

theorem upTo_fates (f : Flow) (inputs : List (Key × Value)) (j : Nat)
    (le : j ≤ f.plan.enqueueOrder.length) :
    (f.upTo inputs j).fates.map (·.1) = f.plan.enqueueOrder.take j ∧
      ∀ id fate, (id, fate) ∈ (f.upTo inputs j).fates ↔
        ∃ i < j, f.plan.enqueueOrder[i]? = some id ∧ (f.resultAt inputs i).1 = fate := by
  induction j with
  | zero =>
    refine ⟨rfl, fun id fate => ⟨nofun, ?_⟩⟩
    rintro ⟨i, lt, _⟩
    omega
  | succ j ih =>
    obtain ⟨ids, mem⟩ := ih (by omega)
    have placed := List.getElem?_eq_getElem (show j < f.plan.enqueueOrder.length by omega)
    have fates : (f.upTo inputs (j + 1)).fates =
        (f.upTo inputs j).fates ++ [(f.plan.enqueueOrder[j], (f.resultAt inputs j).1)] := by
      rw [upTo_succ placed]
      rfl
    rw [fates]
    constructor
    · rw [List.map_append, ids, List.take_succ_eq_append_getElem (by omega)]
      rfl
    · intro id fate
      rw [List.mem_append, mem, List.mem_singleton, Prod.mk.injEq]
      constructor
      · rintro (⟨i, lt, found, is⟩ | ⟨rfl, rfl⟩)
        · exact ⟨i, by omega, found, is⟩
        · exact ⟨j, by omega, placed, rfl⟩
      · rintro ⟨i, lt, found, is⟩
        by_cases last : i = j
        · subst last
          rw [placed, Option.some.injEq] at found
          exact .inr ⟨found.symm, is.symm⟩
        · exact .inl ⟨i, by omega, found, is⟩

theorem fateOf_iff (once : f.plan.enqueueOrder.Nodup) {j : Nat}
    (le : j ≤ f.plan.enqueueOrder.length) {id : NodeId} {fate : Fate} :
    (f.upTo inputs j).fateOf id = some fate ↔
      ∃ i < j, f.plan.enqueueOrder[i]? = some id ∧ (f.resultAt inputs i).1 = fate := by
  obtain ⟨ids, mem⟩ := upTo_fates f inputs j le
  rw [← mem, Evaluation.fateOf, lookup_iff_mem]
  rw [ids]
  exact once.sublist (List.take_sublist j _)

/-- A node is attempted just if all that it depends on succeeded before it. -/
theorem resultAt_iff (once : f.plan.enqueueOrder.Nodup) {j : Nat} {id : NodeId}
    (placed : f.plan.enqueueOrder[j]? = some id) :
    ((∀ d ∈ f.plan.graph.dependencyNodes id, ∃ i < j, f.plan.enqueueOrder[i]? = some d ∧
        (f.resultAt inputs i).1 = .succeeded) ∧
      f.resultAt inputs j = f.attempt (f.upTo inputs j).mark? id) ∨
    ((∃ d ∈ f.plan.graph.dependencyNodes id, ∀ i < j, f.plan.enqueueOrder[i]? = some d →
        (f.resultAt inputs i).1 ≠ .succeeded) ∧
      f.resultAt inputs j = (.skipped, [])) := by
  have le := Nat.le_of_lt (List.getElem?_eq_some_iff.mp placed).1
  rw [resultAt_eq placed, resultOf]
  by_cases ready : ∀ d ∈ f.plan.graph.dependencyNodes id,
      (f.upTo inputs j).fateOf d = some .succeeded
  · rw [if_pos ready]
    exact .inl ⟨fun d dependency => (fateOf_iff once le).mp (ready d dependency), rfl⟩
  · rw [if_neg ready]
    rw [not_forall₂] at ready
    obtain ⟨d, dependency, not⟩ := ready
    refine .inr ⟨⟨d, dependency, fun i lt found succeeded => ?_⟩, rfl⟩
    exact not ((fateOf_iff once le).mpr ⟨i, lt, found, succeeded⟩)

end Flow

end KeyFlow
