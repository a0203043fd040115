import KeyFlow.Proofs.Flow.Casting
import KeyFlow.Proofs.Flow.Enqueued
import KeyFlow.Proofs.Flow.Played

/-!
The start of a flow run that nobody cancels. The store holds the inputs, and every part is still to
be played.
-/

namespace KeyFlow

namespace Built

variable {s : FlowSpec} {f : Flow} {inputs : List (Key × Value)}

/-- The store holds the inputs at the start of a run. -/
theorem seeded_holds (built : Built s f)
    (declared : (inputs.map (·.1)).Perm (s.inputs.map (·.key))) :
    ∃ store, Store.seeded f.plan inputs = .ok store ∧
      (f.cast inputs).Holds (fun _ => false) store := by
  rw [← built.inputs] at declared
  have once : (f.plan.graph.inputs.map (·.key)).Nodup := by
    rw [built.inputs]
    exact built.formed.inputs
  have flowInputs (k : Key) : f.plan.graph.isFlowInput k = true ↔
      k ∈ f.plan.graph.inputs.map (·.key) := by
    rw [built.inputs, built.graph, s.spec.isFlowInput_iff]
    rfl
  obtain ⟨store, eq, keys, get⟩ := Store.seeded_ok f.plan declared once flowInputs
  refine ⟨store, eq, keys, fun k m => ?_⟩
  have given : store.mark? k = (marked inputs).lookup k := by
    rw [Store.mark?, get, marked, lookup_map, Option.map_map]
    rfl
  have nodup : ((marked inputs).map (·.1)).Nodup := by
    rw [marked_keys]
    exact declared.nodup_iff.mpr once
  rw [given, lookup_iff_mem nodup]
  refine ⟨.inl, ?_⟩
  rintro (input | ⟨_, _, no, _⟩)
  · exact input
  · cases no

end Built

namespace Scheduler

/-- Samples of the scheduler's state leave the store alone. -/
theorem samples_store (q : Scheduler FlowState) (token : Token) (emitter : Emitter) (flow : String)
    (shared : FlowState) (sampling : Sampling FlowState)
    (on : (q.start (Lifecycle.conditions token emitter flow FlowState.onSinks) shared).sampling =
      some sampling) (clock : Nat) (snapshot : Snapshot) (s : FlowState) :
    (sampling.observe clock snapshot s).store = s.store := by
  obtain ⟨observe, watches, rfl⟩ := Option.map_eq_some_iff.mp on
  rw [Lifecycle.conditions] at watches
  split at watches
  · cases watches
    rfl
  · cases watches

/-- A run nobody cancels starts with all parts still to be played. -/
theorem Unstarted.played {c : Cast} {q : Scheduler FlowState} (fresh : Unstarted c.deps q)
    (bodies : q.bodies = c.bodies) (emitter : Emitter) (flow : String) (shared : FlowState)
    (holds : c.Holds (fun _ => false) shared.store) :
    Machine.Played c (fun _ => false)
      (q.start (Lifecycle.conditions {} emitter flow FlowState.onSinks) shared) where
  cancelled := rfl
  seen := rfl
  cancelAt := rfl
  deadline := rfl
  sampling := q.samples_store {} emitter flow shared
  holds := holds
  booked := by
    refine ⟨fun j s state => ?_, ⟨fun _ j failed => ?_, fun _ => rfl⟩, fun _ => fresh.halted, ?_⟩
    · rw [fresh.pending j s state]
      exact ⟨nofun, nofun, nofun⟩
    · cases fresh.pending j _ failed
    · show q.books.halted ≠ _
      rw [fresh.halted]
      nofun
  slot := by
    intro j slot found
    obtain ⟨body, there, rfl⟩ := Option.map_eq_some_iff.mp ((List.getElem?_map ..).symm.trans found)
    exact ⟨bodies ▸ there, rfl, rfl⟩
  ended := nofun

end Scheduler

end KeyFlow
