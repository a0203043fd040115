import Mathlib.Data.List.Nodup
import KeyFlow.Proofs.Graph.Needs

/-!
Where keys come from, said of the description alone: no key has two sources just where no task lists
a result twice and no two tasks or predicates give the same key.
-/

namespace KeyFlow

namespace Spec

variable {s : Spec}

theorem nodeOutputs_nodup_iff (tasks : ∀ t ∈ s.tasks, t.WellDeclared) :
    (∀ n ∈ s.nodes, n.outputs.Nodup) ↔ ∀ t ∈ s.tasks, t.signature.outputs.Nodup := by
  constructor
  · intro all t mem
    obtain ⟨i, task⟩ := List.mem_iff_getElem?.mp mem
    have once := all _ (List.mem_of_getElem? (node_task task))
    by_cases invoke : t.invoke = true
    · rw [(tasks t mem).invoke.mpr invoke]
      exact List.nodup_nil
    · rwa [Draft.taskNode, if_neg invoke] at once
  · intro all n mem
    obtain ⟨id, placed⟩ := List.mem_iff_getElem?.mp mem
    obtain ⟨i, t, task, ⟨rfl, rfl⟩ | ⟨p, gated, rfl, rfl⟩⟩ := node_cases placed
    · by_cases invoke : t.invoke = true
      · rw [Draft.taskNode, if_pos invoke]
        exact List.nodup_singleton _
      · rw [Draft.taskNode, if_neg invoke]
        exact all t (getElem?_mem task)
    · exact List.nodup_singleton _

theorem nodes_apart_iff (tasks : ∀ t ∈ s.tasks, t.WellDeclared) :
    s.nodes.Pairwise (Function.onFun List.Disjoint Node.outputs) ↔
      ∀ a b k, s.Gives a k → s.Gives b k → a = b := by
  rw [List.pairwise_iff_getElem]
  constructor
  · intro apart a b k first second
    obtain ⟨id, n, placed, rfl, output⟩ := (provides_iff tasks).mpr first
    obtain ⟨id', n', placed', rfl, output'⟩ := (provides_iff tasks).mpr second
    obtain ⟨lt, rfl⟩ := List.getElem?_eq_some_iff.mp placed
    obtain ⟨lt', rfl⟩ := List.getElem?_eq_some_iff.mp placed'
    rcases Nat.lt_trichotomy id id' with before | rfl | after
    · exact absurd output' (apart id id' lt lt' before output)
    · rfl
    · exact absurd output (apart id' id lt' lt after output')
  · intro unique id id' lt lt' before k output output'
    have placed := List.getElem?_eq_getElem lt
    have placed' := List.getElem?_eq_getElem lt'
    have same := unique _ _ k ((provides_iff tasks).mp ⟨id, _, placed, rfl, output⟩)
      ((provides_iff tasks).mp ⟨id', _, placed', rfl, output'⟩)
    exact Nat.ne_of_lt before (kind_unique placed placed' same)

theorem mem_nodeOutputs_iff (tasks : ∀ t ∈ s.tasks, t.WellDeclared) {k : Key} :
    k ∈ s.nodes.flatMap (·.outputs) ↔ ∃ a, s.Gives a k := by
  rw [List.mem_flatMap]
  constructor
  · rintro ⟨n, mem, output⟩
    obtain ⟨id, placed⟩ := List.mem_iff_getElem?.mp mem
    exact ⟨n.kind, (provides_iff tasks).mp ⟨id, n, placed, rfl, output⟩⟩
  · rintro ⟨a, gives⟩
    obtain ⟨id, n, placed, _, output⟩ := (provides_iff tasks).mpr gives
    exact ⟨n, List.mem_of_getElem? placed, output⟩

theorem sourced_iff :
    s.Sourced ↔ (s.inputs.map (·.key)).Nodup ∧ (s.outputs.map (·.key)).Nodup ∧
      (∀ t ∈ s.tasks, t.WellDeclared) ∧ (∀ t ∈ s.tasks, t.signature.outputs.Nodup) ∧
      (∀ a b k, s.Gives a k → s.Gives b k → a = b) ∧
      ∀ a k, s.Gives a k → k ∉ s.inputs.map (·.key) := by
  have once (tasks : ∀ t ∈ s.tasks, t.WellDeclared) :
      (s.nodes.flatMap (·.outputs)).Nodup ↔ (∀ t ∈ s.tasks, t.signature.outputs.Nodup) ∧
        ∀ a b k, s.Gives a k → s.Gives b k → a = b := by
    rw [List.nodup_flatMap, nodeOutputs_nodup_iff tasks, nodes_apart_iff tasks]
  have apart (tasks : ∀ t ∈ s.tasks, t.WellDeclared) :
      (∀ k ∈ s.nodes.flatMap (·.outputs), k ∉ s.inputs.map (·.key)) ↔
        ∀ a k, s.Gives a k → k ∉ s.inputs.map (·.key) := by
    simp only [mem_nodeOutputs_iff tasks]
    exact ⟨fun h a k gives => h k ⟨a, gives⟩, fun h k ⟨a, gives⟩ => h a k gives⟩
  constructor
  · rintro ⟨inputs, outputs, tasks, single, clear⟩
    obtain ⟨results, unique⟩ := (once tasks).mp single
    exact ⟨inputs, outputs, tasks, results, unique, (apart tasks).mp clear⟩
  · rintro ⟨inputs, outputs, tasks, results, unique, clear⟩
    exact ⟨inputs, outputs, tasks, (once tasks).mpr ⟨results, unique⟩, (apart tasks).mpr clear⟩

end Spec

end KeyFlow
