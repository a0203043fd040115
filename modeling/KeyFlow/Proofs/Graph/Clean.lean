import KeyFlow.Proofs.Graph.Drawn

/-!
A draft without issues is the graph of its description, node by node, and the making of the draft
finds no issue just where the declarations are sound, no key is declared twice, and every key has
at most one source.
-/

namespace KeyFlow

namespace Draft

/-! ## Inputs and outputs -/

theorem addInput_of_isSome {d : Draft} {i : Declared}
    (taken : (d.graph.inputAt i.key).isSome = true) : (d.addInput i).issues ≠ [] := by
  unfold addInput
  split
  · simp
  · rename_i free
    rw [free] at taken
    cases taken

theorem addInput_of_none {d : Draft} {i : Declared} (free : d.graph.inputAt i.key = none) :
    d.addInput i = { d with graph := { d.graph with
      flowInputs := d.graph.flowInputs ++ [(i.key, i.location)] } } := by
  rw [addInput, free]

/-- Inputs of different keys are all entered. -/
theorem addInputs_eq {d : Draft} {inputs : List Declared}
    (once : (d.graph.flowInputs.map (·.1) ++ inputs.map (·.key)).Nodup) :
    inputs.foldl addInput d = { d with graph := { d.graph with
      flowInputs := d.graph.flowInputs ++ inputs.map fun i => (i.key, i.location) } } := by
  induction inputs generalizing d with
  | nil => simp
  | cons i inputs ih =>
    have free : d.graph.inputAt i.key = none := by
      rw [List.map_cons, List.nodup_append] at once
      exact lookup_eq_none.mpr fun mem => once.2.2 _ mem _ (List.mem_cons_self ..) rfl
    rw [List.foldl_cons, addInput_of_none free, ih (by simpa [List.append_assoc] using once)]
    simp [List.append_assoc]

theorem addInputs_clean {d : Draft} {inputs : List Declared}
    (once : (d.graph.flowInputs.map (·.1)).Nodup)
    (clean : (inputs.foldl addInput d).issues = []) :
    d.issues = [] ∧ (d.graph.flowInputs.map (·.1) ++ inputs.map (·.key)).Nodup := by
  induction inputs generalizing d with
  | nil => exact ⟨clean, by simpa using once⟩
  | cons i inputs ih =>
    rw [List.foldl_cons] at clean
    cases free : d.graph.inputAt i.key with
    | some earlier =>
      have frame : (d.addInput i).graph = d.graph := by simp [addInput, free]
      have issues := (ih (by rw [frame]; exact once) clean).1
      exact absurd issues (addInput_of_isSome (by rw [free]; rfl))
    | none =>
      rw [addInput_of_none free] at clean
      have new := List.nodup_cons.mpr ⟨lookup_eq_none.mp free, once⟩
      rw [← List.singleton_append, List.nodup_append_comm] at new
      obtain ⟨issues, nodup⟩ := ih (by simpa using new) clean
      exact ⟨issues, by simpa [List.append_assoc] using nodup⟩

theorem mem_receiversOf {g : Graph} {k : Key} {r : Receiver} :
    r ∈ g.receiversOf k ↔ (k, r) ∈ g.receivers := by
  simp only [Graph.receiversOf, List.mem_map, List.mem_filter, beq_iff_eq]
  constructor
  · rintro ⟨⟨k', r'⟩, ⟨mem, rfl⟩, rfl⟩
    exact mem
  · intro mem
    exact ⟨(k, r), ⟨mem, rfl⟩, rfl⟩

theorem addOutput_of_mem {d : Draft} {o : Declared} (taken : (o.key, .flowOutput) ∈
    d.graph.receivers) : (d.addOutput o).issues ≠ [] := by
  rw [addOutput, if_pos (mem_receiversOf.mpr taken)]
  simp

theorem addOutput_of_not_mem {d : Draft} {o : Declared} (free : (o.key, .flowOutput) ∉
    d.graph.receivers) : d.addOutput o = { d with graph := { d.graph with
      receivers := d.graph.receivers ++ [(o.key, .flowOutput)] } } := by
  rw [addOutput, if_neg fun mem => free (mem_receiversOf.mp mem)]

/-- Outputs of different keys are all entered. -/
theorem addOutputs_eq {d : Draft} {outputs : List Declared}
    (once : (d.graph.receivers ++ outputs.map fun o => (o.key, Receiver.flowOutput)).Nodup) :
    outputs.foldl addOutput d = { d with graph := { d.graph with
      receivers := d.graph.receivers ++ outputs.map fun o => (o.key, .flowOutput) } } := by
  induction outputs generalizing d with
  | nil => simp
  | cons o outputs ih =>
    have free : (o.key, .flowOutput) ∉ d.graph.receivers := by
      rw [List.map_cons, List.nodup_append] at once
      exact fun mem => once.2.2 _ mem _ (List.mem_cons_self ..) rfl
    rw [List.foldl_cons, addOutput_of_not_mem free, ih (by simpa [List.append_assoc] using once)]
    simp [List.append_assoc]

theorem addOutputs_clean {d : Draft} {outputs : List Declared} (once : d.graph.receivers.Nodup)
    (clean : (outputs.foldl addOutput d).issues = []) :
    d.issues = [] ∧
      (d.graph.receivers ++ outputs.map fun o => (o.key, Receiver.flowOutput)).Nodup := by
  induction outputs generalizing d with
  | nil => exact ⟨clean, by simpa using once⟩
  | cons o outputs ih =>
    rw [List.foldl_cons] at clean
    by_cases taken : (o.key, .flowOutput) ∈ d.graph.receivers
    · have frame : (d.addOutput o).graph = d.graph := by
        rw [addOutput, if_pos (mem_receiversOf.mpr taken)]
      have issues := (ih (by rw [frame]; exact once) clean).1
      exact absurd issues (addOutput_of_mem taken)
    · rw [addOutput_of_not_mem taken] at clean
      have new := List.nodup_cons.mpr ⟨taken, once⟩
      rw [← List.singleton_append, List.nodup_append_comm] at new
      obtain ⟨issues, nodup⟩ := ih new clean
      exact ⟨issues, by simpa [List.append_assoc] using nodup⟩

/-- Outputs do not touch the inputs. -/
theorem addInputs_receivers (d : Draft) (inputs : List Declared) :
    (inputs.foldl addInput d).graph.receivers = d.graph.receivers := by
  induction inputs generalizing d with
  | nil => rfl
  | cons i inputs ih =>
    rw [List.foldl_cons, ih, addInput]
    split <;> rfl

end Draft

namespace Spec

/-- The nodes of all tasks. -/
def nodes (s : Spec) : List Node := nodesFrom 0 s.tasks

/-- The graph with the flow's own inputs and outputs. -/
def declaredGraph (s : Spec) : Graph :=
  { s.emptyGraph with
    flowInputs := s.inputs.map fun i => (i.key, i.location)
    receivers := s.outputs.map fun o => (o.key, .flowOutput) }

/-- The whole graph. -/
def graph (s : Spec) : Graph := s.declaredGraph.withTasks s.tasks

/-- The conditions on single declarations and on the sources of keys. -/
structure Sourced (s : Spec) : Prop where
  inputs : (s.inputs.map (·.key)).Nodup
  outputs : (s.outputs.map (·.key)).Nodup
  tasks : ∀ t ∈ s.tasks, t.WellDeclared
  once : (s.nodes.flatMap (·.outputs)).Nodup
  apart : ∀ k ∈ s.nodes.flatMap (·.outputs), k ∉ s.inputs.map (·.key)

theorem map_inputs (inputs : List Declared) :
    (inputs.map fun i => (i.key, i.location)).map (·.1) = inputs.map (·.key) := by
  simp [Function.comp_def]

theorem nodup_outputs (outputs : List Declared) :
    (outputs.map fun o => (o.key, Receiver.flowOutput)).Nodup ↔ (outputs.map (·.key)).Nodup := by
  rw [show (fun o : Declared => (o.key, Receiver.flowOutput)) =
    (fun k => (k, Receiver.flowOutput)) ∘ (·.key) from rfl, ← List.map_map]
  exact List.nodup_map_iff fun k k' same => (Prod.mk.inj same).1

theorem declared_eq {s : Spec} (inputs : (s.inputs.map (·.key)).Nodup)
    (outputs : (s.outputs.map (·.key)).Nodup) :
    s.outputs.foldl Draft.addOutput (s.inputs.foldl Draft.addInput ⟨s.emptyGraph, []⟩) =
      ⟨s.declaredGraph, []⟩ := by
  rw [Draft.addInputs_eq (by simpa [emptyGraph] using inputs), Draft.addOutputs_eq]
  · rfl
  · exact (nodup_outputs s.outputs).mpr outputs

/-- The draft of a description without issues is its graph. -/
theorem draft_clean (s : Spec) (d : Draft) :
    (s.draft = .ok d ∧ d.issues = []) ↔ s.Sourced ∧ d = ⟨s.graph, []⟩ := by
  have fresh_iff : s.declaredGraph.FreshNodes s.nodes ↔
      (s.nodes.flatMap (·.outputs)).Nodup ∧
        ∀ k ∈ s.nodes.flatMap (·.outputs), k ∉ s.inputs.map (·.key) := by
    rw [Graph.freshNodes_iff (g := s.declaredGraph) List.nodup_nil]
    refine and_congr Iff.rfl (forall₂_congr fun k _ => ?_)
    rw [Graph.inputAt, lookup_eq_none, ← map_inputs]
    rfl
  have tasks_clean := Draft.addTasks_clean ⟨s.declaredGraph, []⟩ d s.tasks
  constructor
  · rintro ⟨h, clean⟩
    have declared := Draft.issues_of_addTasks h clean
    have noReceivers := Draft.addInputs_receivers ⟨s.emptyGraph, []⟩ s.inputs
    obtain ⟨given, outputs⟩ :=
      Draft.addOutputs_clean (by rw [noReceivers]; exact List.nodup_nil) declared
    obtain ⟨_, inputs⟩ := Draft.addInputs_clean (d := ⟨s.emptyGraph, []⟩) List.nodup_nil given
    rw [noReceivers] at outputs
    have outputs := (nodup_outputs s.outputs).mp outputs
    rw [draft, declared_eq inputs outputs] at h
    obtain ⟨_, tasks, fresh, eq⟩ := tasks_clean.mp ⟨h, clean⟩
    obtain ⟨once, apart⟩ := fresh_iff.mp fresh
    exact ⟨⟨inputs, outputs, tasks, once, apart⟩, eq⟩
  · rintro ⟨sourced, eq⟩
    rw [draft, declared_eq sourced.inputs sourced.outputs]
    exact tasks_clean.mpr ⟨rfl, sourced.tasks, fresh_iff.mpr ⟨sourced.once, sourced.apart⟩, eq⟩

end Spec

end KeyFlow
