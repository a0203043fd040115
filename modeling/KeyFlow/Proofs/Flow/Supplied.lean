import KeyFlow.Proofs.Flow.Compiled
import KeyFlow.Proofs.Flow.Written

/-!
What a run makes of the values that it is given. They are taken just if they are one for each
declared input, in any order, and then they are all that is in the store; otherwise the run is over
before it has begun, and the error says what is wrong with them.
-/

namespace KeyFlow

/-- The error is about something that is wrong with the supplied keys. -/
def InputError.Concerns (p : Plan) (supplied : List Key) : InputError → Prop
  | .undeclared k flow => k ∈ supplied ∧ k ∉ p.graph.inputs.map (·.key) ∧ flow = p.graph.name
  | .repeated k => 2 ≤ supplied.count k
  | .missing k => k ∈ p.graph.inputs.map (·.key) ∧ k ∉ supplied
  | .refused _ => False

theorem InputError.Concerns.inputs {p : Plan} {supplied : List Key} {e : InputError}
    (concerns : e.Concerns p supplied) : ∃ what, e.toError = .inputs what := by
  cases e with
  | refused => exact concerns.elim
  | undeclared | repeated | missing => exact ⟨_, rfl⟩

/-- The inputs of a plan are told apart, and its graph knows them all. -/
structure Plan.Receptive (p : Plan) : Prop where
  once : (p.graph.inputs.map (·.key)).Nodup
  flowInput : ∀ k, p.graph.isFlowInput k = true ↔ k ∈ p.graph.inputs.map (·.key)

theorem Spec.Sourced.receptive {s : Spec} (sourced : s.Sourced) : s.plan.Receptive where
  once := by
    rw [plan, s.graph_inputs]
    exact sourced.inputs
  flowInput := by
    intro k
    rw [plan, s.isFlowInput_iff, s.graph_inputs]

namespace Store

variable {p : Plan} {s : Store Held} {inputs : List (Key × Value)} {e : InputError}

/-- Of the values taken so far, `given` are the keys. The next one that is refused was not declared
or is among them. -/
theorem supply_concerns (receptive : p.Receptive) {given : List Key}
    (slots : ∀ k, p.graph.isFlowInput k = true → k ∈ s.keys)
    (held : ∀ k, s.contains k = true → k ∈ given) (refused : s.supply p inputs = .error e) :
    e.Concerns p (given ++ inputs.map (·.1)) := by
  induction inputs generalizing s given with
  | nil => cases refused
  | cons i inputs ih =>
    obtain ⟨k, v⟩ := i
    rw [supply] at refused
    split at refused
    · rename_i unknown
      cases refused
      refine ⟨by simp, ?_, rfl⟩
      rw [← receptive.flowInput]
      simpa using unknown
    · rename_i known
      split at refused
      · rename_i there
        cases refused
        have before := List.count_pos_iff.mpr (held k there)
        rw [InputError.Concerns, List.count_append, List.map_cons, List.count_cons_self]
        omega
      · rename_i empty
        have free : s.IsFree k := ⟨slots k (by simpa using known), by simpa [contains] using empty⟩
        obtain ⟨s₁, eq, keys, get⟩ := set_ok free (Held.value v)
        rw [eq] at refused
        have held₁ : ∀ x, s₁.contains x = true → x ∈ given ++ [k] := by
          intro x there
          rw [contains, get] at there
          by_cases same : x = k
          · exact same ▸ List.mem_concat_self
          · rw [if_neg same] at there
            exact List.mem_append_left _ (held x there)
        have concerns := ih (fun x input => keys ▸ slots x input) held₁ refused
        rwa [List.append_assoc] at concerns

/-- What is wrong with values that are refused is wrong with them as a whole. -/
theorem seeded_concerns (receptive : p.Receptive) (refused : seeded p inputs = .error e) :
    e.Concerns p (inputs.map (·.1)) := by
  have slots (k : Key) (input : p.graph.isFlowInput k = true) :
      k ∈ (forPlan p : Store Held).keys :=
    (forPlan_keys p k).mpr (.inl ((receptive.flowInput k).mp input))
  have empty (k : Key) (there : (forPlan p : Store Held).contains k = true) :
      k ∈ ([] : List Key) := by
    rw [contains, forPlan_get?] at there
    cases there
  unfold seeded at refused
  cases supplied : (forPlan p).supply p inputs with
  | error e' =>
    rw [supplied] at refused
    cases refused
    exact supply_concerns receptive slots empty supplied
  | ok s =>
    simp only [supplied] at refused
    split at refused
    · rename_i d missing
      cases refused
      refine ⟨List.mem_map_of_mem (List.mem_of_find?_eq_some missing), ?_⟩
      have absent := List.find?_some missing
      rw [contains, supplied_get p supplied, Option.isSome_map] at absent
      intro given
      rw [lookup_isSome.mpr given] at absent
      cases absent
    · cases refused

/-- Values are taken just if their keys are those of the declared inputs, in any order. -/
theorem seeded_iff_perm (receptive : p.Receptive) : (∃ s, seeded p inputs = .ok s) ↔
    (inputs.map (·.1)).Perm (p.graph.inputs.map (·.key)) := by
  constructor
  · rintro ⟨s, ok⟩
    obtain ⟨supplied, all⟩ := (seeded_eq_ok_iff p).mp ok
    obtain ⟨once, declared, _⟩ := supply_free p supplied
    refine (List.perm_ext_iff_of_nodup once receptive.once).mpr fun k => ⟨fun given => ?_, ?_⟩
    · obtain ⟨i, mem, rfl⟩ := List.mem_map.mp given
      exact (receptive.flowInput i.1).mp (declared i mem)
    · intro input
      obtain ⟨d, mem, rfl⟩ := List.mem_map.mp input
      exact lookup_isSome.mp (all d mem)
  · intro perm
    obtain ⟨s, ok, _⟩ := seeded_ok p perm receptive.once receptive.flowInput
    exact ⟨s, ok⟩

end Store

/-- The inputs of a run are taken just if their keys are those that are declared, in any order. Then
they are in the store, and nothing else is. Otherwise the run comes at once to an error about its
inputs, which says what is wrong with them; nothing is told but the beginning and the end of the
flow, and no job has been run, whatever the flow is made of. -/
theorem Flow.inputs_are_matched (s : Spec) (p : Plan) (compiled : s.compile = .ok p)
    (inputs : List (Key × Value)) :
    ((∃ store, Store.seeded p inputs = .ok store) ↔
      (inputs.map (·.1)).Perm (s.inputs.map (·.key))) ∧
    (∀ store, Store.seeded p inputs = .ok store → ∀ k held,
      store.get? k = some held ↔ ∃ v, (k, v) ∈ inputs ∧ held = .value v) ∧
    (¬ (inputs.map (·.1)).Perm (s.inputs.map (·.key)) →
      ∃ e what, Store.seeded p inputs = .error e ∧ e.Concerns p (inputs.map (·.1)) ∧
        e.toError = .inputs what ∧ ∀ (f : Flow) (token : Token) (sinks : Sinks), f.plan = p →
          f.run inputs token sinks = .reported {
            result := .error (.inputs what)
            jobs := none
            sinks := Lifecycle.tellAll f.tell
              [.flowInit, .flowError (.inputs what), .flowDone] sinks }) := by
  obtain ⟨sourced, _, _, plan⟩ := (s.compile_eq_ok_iff p).mp compiled
  have receptive : p.Receptive := plan ▸ sourced.receptive
  have declared : p.graph.inputs = s.inputs := plan ▸ s.graph_inputs
  rw [← declared, ← Store.seeded_iff_perm receptive]
  refine ⟨Iff.rfl, fun store ok k held => ?_, fun refused => ?_⟩
  · obtain ⟨supplied, _⟩ := (Store.seeded_eq_ok_iff p).mp ok
    rw [Store.supplied_get p supplied, Option.map_eq_some_iff]
    refine exists_congr fun v => and_congr ?_ eq_comm
    exact lookup_iff_mem (Store.supply_free p supplied).1
  · cases seeded : Store.seeded p inputs with
    | ok store => exact absurd ⟨store, seeded⟩ refused
    | error e =>
      have concerns := Store.seeded_concerns receptive seeded
      obtain ⟨what, is⟩ := concerns.inputs
      refine ⟨e, what, rfl, concerns, is, ?_⟩
      rintro f token sinks rfl
      rw [← is, run, Lifecycle.around, seeded]
      rfl

/-- The gated flow is run on its input, and without it. -/
theorem Flow.inputs_are_matched_gated :
    Spec.gatedSpec.compile = .ok gated.plan ∧
    (∃ store, Store.seeded gated.plan [(.named "in", .untyped (.int 1))] = .ok store ∧
      store.get? (.named "in") = some (.value (.untyped (.int 1)))) ∧
    ∃ what, gated.run [] {} {} = .reported {
      result := .error (.inputs what)
      jobs := none
      sinks := Lifecycle.tellAll gated.tell
        [.flowInit, .flowError (.inputs what), .flowDone] {} } := by
  have compiled : Spec.gatedSpec.compile = .ok gated.plan :=
    Spec.compile_eq_plan_iff.mpr ⟨Spec.gatedSpec_wellFormed, rfl⟩
  obtain ⟨matched, held, _⟩ :=
    inputs_are_matched Spec.gatedSpec gated.plan compiled [(.named "in", .untyped (.int 1))]
  obtain ⟨_, _, refused⟩ := inputs_are_matched Spec.gatedSpec gated.plan compiled []
  obtain ⟨store, ok⟩ := matched.mpr (List.Perm.refl _)
  obtain ⟨_, what, _, _, _, run⟩ := refused (by decide)
  exact ⟨compiled, ⟨store, ok, (held store ok _ _).mpr ⟨_, List.mem_singleton_self _, rfl⟩⟩,
    what, run gated {} {} rfl⟩

end KeyFlow
