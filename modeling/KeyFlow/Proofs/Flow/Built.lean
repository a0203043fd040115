import KeyFlow.Proofs.Flow.Compiled
import KeyFlow.Proofs.Flow.Steady

/-!
Flows whose bodies are steady: what each node comes to is a matter of what it reads.
-/

namespace KeyFlow

/-- A flow that came out of a description whose bodies are steady. -/
structure Built (s : FlowSpec) (f : Flow) : Prop extends Compiled s f where
  steady : ∀ t ∈ s.tasks, t.Steady

namespace Built

variable {s : FlowSpec} {f : Flow}

theorem of_build (built : s.build = .ok f) (steady : ∀ t ∈ s.tasks, t.Steady) : Built s f :=
  ⟨.of_build built, steady⟩

theorem unit_steady (built : Built s f) {i : Nat} {u : FlowUnit} (found : f.unit? i = some u) :
    u.Steady := by
  obtain ⟨t, work, placed, works, rfl⟩ := built.of_unit found
  have mem := List.mem_of_getElem? placed
  refine ⟨built.unit_formed placed works, ?_, ?_⟩
  · obtain ⟨body, given, rfl⟩ := Option.map_eq_some_iff.mp works
    exact (built.steady t mem).body body given
  · intro gate check gated checked
    obtain ⟨body, _, rfl⟩ := Option.map_eq_some_iff.mp works
    obtain ⟨p, declared, rfl⟩ := Option.map_eq_some_iff.mp gated
    obtain ⟨q, predicate, rfl⟩ := Option.map_eq_some_iff.mp declared
    obtain ⟨q', predicate', checked⟩ := Option.bind_eq_some_iff.mp checked
    rw [predicate, Option.some.injEq] at predicate'
    subst predicate'
    exact (built.steady t mem).check q check predicate checked

/-- Every node is of one of these two kinds. -/
theorem node_cases (built : Built s f) {id : NodeId} (inRange : id < f.plan.graph.nodes.length) :
    ∃ u : FlowUnit, u.Steady ∧
      (Compiled.IsTask f id u ∨ ∃ gate, Compiled.IsGate f id u gate) := by
  obtain ⟨i, u, found, kinds⟩ := built.unit_cases inRange
  obtain ⟨task, predicate⟩ := built.nodes_of_unit found
  refine ⟨u, built.unit_steady found, ?_⟩
  rcases kinds with rfl | ⟨gate, gated, rfl⟩
  · exact .inl task
  · exact .inr ⟨gate, predicate gate gated⟩

end Built

end KeyFlow
