import Mathlib.Data.List.Count
import KeyFlow.Proofs.Graph.Checked
import KeyFlow.Proofs.Graph.Represented

/-!
What coverage reports of the graph of any description, with cycles or without, complete or not. A
key is sought by a requested output, by a task that is run for its effects, or by the provider of a
key that is sought. Each key that is sought in vain, each input that is not sought and each output
that nobody receives is one issue, and there are no others.
-/

namespace KeyFlow

namespace Graph

variable {g : Graph}

/-- A key is sought at a place: a requested output where it is declared, the sentinel of a task that
is run for its effects where that is, and what the provider of a sought key depends on where the
provider is. -/
inductive SoughtAt (g : Graph) : Key → Location → Prop where
  | output {o : Declared} (mem : o ∈ g.outputs) : SoughtAt g o.key o.location
  | invoked {task : Task} (mem : task ∈ g.tasks) (invoke : task.invoke = true) :
    SoughtAt g (.finished task.ordinal) task.location
  | dependency {k k' : Key} {spot : Location} {id : NodeId} {n : Node} (sought : SoughtAt g k spot)
    (provider : g.providerOf k = some id) (node : g.nodes[id]? = some n)
    (mem : k' ∈ n.dependencies) : SoughtAt g k' n.location

def Sought (g : Graph) (k : Key) : Prop := ∃ spot, g.SoughtAt k spot

/-- A key goes somewhere: the flow requests it or a node depends on it. -/
def Received (g : Graph) (k : Key) : Prop :=
  k ∈ g.outputs.map (·.key) ∨ ∃ n ∈ g.nodes, k ∈ n.dependencies

instance (g : Graph) (k : Key) : Decidable (g.Received k) := inferInstanceAs (Decidable (_ ∨ _))

/-- What is sought and no sentinel is received. -/
theorem SoughtAt.received {k : Key} {spot : Location} (sought : g.SoughtAt k spot)
    (user : k.isSentinel = false) : g.Received k := by
  cases sought with
  | output mem => exact .inl (List.mem_map_of_mem mem)
  | invoked mem invoke => cases user
  | dependency _ _ node mem => exact .inr ⟨_, List.mem_of_getElem? node, mem⟩

/-- A key comes from somewhere: a node provides it or the caller does. -/
def Supplied (g : Graph) (k : Key) : Prop :=
  (∃ id, g.providerOf k = some id) ∨ k ∈ g.inputs.map (·.key)

open scoped Classical in
/-- The issues are what coverage has to report. -/
structure Uncovers (g : Graph) (issues : List Issue) : Prop where
  kinds : ∀ i ∈ issues, i.problem.kind = .unusedOutput ∨ i.problem.kind = .missingProvider ∨
    i.problem.kind = .unusedInput
  /-- One for each key that is sought in vain, at a place where it is sought. -/
  missing : ∀ k, (issues.map (·.problem)).count (.missingProvider k) =
    if g.Sought k ∧ ¬ g.Supplied k then 1 else 0
  missingAt : ∀ k spot, ⟨spot, .missingProvider k⟩ ∈ issues → g.SoughtAt k spot
  /-- One for each declared input that is not sought, where it is declared first. -/
  inputs : ∀ k, (issues.map (·.problem)).count (.unusedInput k) =
    if k ∈ g.inputs.map (·.key) ∧ ¬ g.Sought k then 1 else 0
  inputsAt : ∀ k spot, ⟨spot, .unusedInput k⟩ ∈ issues →
    (g.inputs.find? (·.key = k)).map (·.location) = some spot
  /-- One for each time that a node lists an output, no sentinel, that nobody receives. -/
  outputs : issues.filter (·.problem.kind = .unusedOutput) = g.nodes.flatMap fun n =>
    (n.outputs.filter fun k => k.isSentinel = false ∧ ¬ g.Received k).map
      (⟨n.location, .unusedOutput ·⟩)

/-! ## The walk -/

/-- Every key is met once. -/
theorem wantedFrom_nodup (queue : List (Key × Location)) (seen : List Key) :
    ((g.wantedFrom queue seen).map (·.1)).Nodup ∧
      ∀ k ∈ (g.wantedFrom queue seen).map (·.1), k ∉ seen := by
  have met {k : Key} {seen found : List Key} (new : k ∉ seen)
      (later : found.Nodup ∧ ∀ x ∈ found, x ∉ k :: seen) :
      (k :: found).Nodup ∧ ∀ x ∈ k :: found, x ∉ seen := by
    obtain ⟨nodup, fresh⟩ := later
    refine ⟨List.nodup_cons.mpr ⟨fun mem => fresh k mem (List.mem_cons_self ..), nodup⟩, ?_⟩
    exact List.forall_mem_cons.mpr ⟨new, fun x mem old => fresh x mem (List.mem_cons_of_mem _ old)⟩
  fun_induction wantedFrom g queue seen with
  | case1 => simp
  | case2 seen k spot rest known ih => exact ih
  | case3 seen k spot rest new nobodyWaits ih => exact met new ih
  | case4 seen k spot rest new id found ih => exact met new ih

end Graph

namespace Draft

variable {s : Spec} {d : Draft} {entered : List (TaskDecl × Nat)}

/-- The walk starts at the requested outputs and at the sentinels of the tasks that are run for
their effects. -/
theorem Represents.mem_demands (represents : Represents s entered d) {k : Key} {spot : Location} :
    (k, spot) ∈ d.graph.demands ↔ (∃ o ∈ d.graph.outputs, o.key = k ∧ o.location = spot) ∨
      ∃ task ∈ d.graph.tasks, task.invoke = true ∧ .finished task.ordinal = k ∧
        task.location = spot := by
  rw [Graph.demands, List.mem_append]
  refine or_congr (by simp) ?_
  simp only [List.mem_flatMap, List.mem_filter, and_assoc]
  refine exists_congr fun task => and_congr_right fun mem => and_congr_right fun invoke => ?_
  obtain ⟨i, placed⟩ := List.mem_iff_getElem?.mp mem
  obtain ⟨n, node, _, _, _, outputs⟩ := (represents.seated i task placed).node
  rw [if_pos invoke] at outputs
  simp only [node, outputs]
  simp [eq_comm]

/-- The walk meets a key at a place where it is sought. -/
theorem Represents.soughtAt_of_wanted (represents : Represents s entered d) :
    ∀ x ∈ d.graph.wanted, d.graph.SoughtAt x.1 x.2 := by
  refine Graph.wantedFrom_sound (fun k spot id sought found k' mem => ?_) fun (k, spot) mem => ?_
  · obtain ⟨n, node, dependencies, location, _⟩ := represents.inRange.node found
    rw [dependencies] at mem
    rw [location]
    exact .dependency sought found node mem
  · rcases represents.mem_demands.mp mem with ⟨o, out, rfl, rfl⟩ | ⟨task, placed, invoke, rfl, rfl⟩
    · exact .output out
    · exact .invoked placed invoke

theorem Represents.sought_iff (represents : Represents s entered d) (k : Key) :
    d.graph.Sought k ↔ k ∈ d.graph.wanted.map (·.1) := by
  constructor
  · rintro ⟨spot, sought⟩
    rw [Graph.mem_wanted_iff]
    induction sought with
    | output mem =>
      exact .demanded (List.mem_map_of_mem (represents.mem_demands.mpr (.inl ⟨_, mem, rfl, rfl⟩)))
    | invoked mem invoke =>
      exact .demanded (List.mem_map_of_mem
        (represents.mem_demands.mpr (.inr ⟨_, mem, invoke, rfl, rfl⟩)))
    | dependency _ found node mem wanted =>
      refine .follows wanted ((Graph.below_iff found).mpr ?_)
      rwa [Graph.dependenciesOf, node]
  · intro mem
    obtain ⟨x, met, rfl⟩ := List.mem_map.mp mem
    exact ⟨x.2, represents.soughtAt_of_wanted x met⟩

/-! ## What is reported -/

theorem Represents.isFlowInput_iff (represents : Represents s entered d) (k : Key) :
    d.graph.isFlowInput k = true ↔ k ∈ d.graph.inputs.map (·.key) := by
  rw [Graph.isFlowInput, Option.isSome_iff_ne_none, ne_eq, inputAt_eq_none represents.toAccounted,
    not_not, represents.inputs]

/-- What a caller supplies no node provides. -/
theorem Represents.providerOf_input (represents : Represents s entered d) {k : Key}
    (input : k ∈ d.graph.inputs.map (·.key)) : d.graph.providerOf k = none := by
  rw [represents.inputs] at input
  rw [represents.providerOf, if_pos input]

theorem Represents.supplied_iff (represents : Represents s entered d) (k : Key) :
    ((d.graph.providerOf k).isNone && !d.graph.isFlowInput k) = true ↔ ¬ d.graph.Supplied k := by
  rw [Graph.Supplied, ← represents.isFlowInput_iff, ← Option.isSome_iff_exists]
  cases d.graph.providerOf k <;> simp

/-- The keys that nobody receives are those without a receiver on record. -/
theorem Represents.receiversOf_isEmpty (represents : Represents s entered d) (k : Key) :
    (d.graph.receiversOf k).isEmpty = true ↔ ¬ d.graph.Received k := by
  rw [List.isEmpty_iff, represents.receiversOf, Graph.receiversFrom, List.append_eq_nil_iff,
    Graph.Received, not_or, represents.outputs]
  refine and_congr (by simp) ?_
  simp only [List.flatMap_eq_nil_iff, List.replicate_eq_nil_iff, List.count_eq_zero]
  constructor
  · rintro nobodyWaits ⟨n, mem, waits⟩
    obtain ⟨id, placed⟩ := List.mem_iff_getElem?.mp mem
    exact nobodyWaits (n, id) (List.mem_zipIdx_iff_getElem?.mpr placed) waits
  · rintro nobodyWaits ⟨n, id⟩ mem waits
    exact nobodyWaits ⟨n, List.fst_mem_of_mem_zipIdx mem, waits⟩

theorem Represents.unusedOutputs_eq (represents : Represents s entered d) :
    d.graph.unusedOutputs = d.graph.nodes.flatMap fun n =>
      (n.outputs.filter fun k => k.isSentinel = false ∧ ¬ d.graph.Received k).map
        (⟨n.location, .unusedOutput ·⟩) := by
  refine List.flatMap_congr fun n _ => congrArg (List.map _) (List.filter_congr fun k _ => ?_)
  rw [Bool.eq_iff_iff, Bool.and_eq_true, represents.receiversOf_isEmpty, Bool.not_eq_true',
    decide_eq_true_eq]

/-- What is reported of keys that are sought in vain, in the order in which they are met. -/
theorem missingProviders_problems (g : Graph) : g.missingProviders.map (·.problem) =
    ((g.wanted.map (·.1)).filter fun k => (g.providerOf k).isNone && !g.isFlowInput k).map
      .missingProvider := by
  rw [Graph.missingProviders, List.map_filterMap, List.filter_map, List.map_map,
    ← List.filterMap_eq_map, List.filterMap_filter]
  refine List.filterMap_congr fun x _ => ?_
  simp only [Function.comp_apply]
  split <;> rfl

theorem count_unusedAmong (settled : List Key) (declared : List Declared) (k : Key) :
    ((Graph.unusedAmong settled declared).map (·.problem)).count (.unusedInput k) =
      if k ∈ declared.map (·.key) ∧ k ∉ settled then 1 else 0 := by
  fun_induction Graph.unusedAmong settled declared with
  | case1 => simp
  | case2 settled d declared known ih =>
    rw [ih]
    refine if_congr (and_congr_left fun new => ?_) rfl rfl
    have other : k ≠ d.key := fun same => new (same ▸ known)
    simp [other]
  | case3 settled d declared unknown ih =>
    rw [List.map_cons, List.count_cons, ih]
    by_cases same : d.key = k
    · subst same
      simp [unknown]
    · simp [same, Ne.symm same]

/-- An input is reported at its first declaration. -/
theorem unusedAmong_at {settled : List Key} {declared : List Declared} {k : Key} {spot : Location}
    (mem : ⟨spot, .unusedInput k⟩ ∈ Graph.unusedAmong settled declared) :
    k ∉ settled ∧ (declared.find? (·.key = k)).map (·.location) = some spot := by
  fun_induction Graph.unusedAmong settled declared with
  | case1 => cases mem
  | case2 settled d declared known ih =>
    obtain ⟨new, first⟩ := ih mem
    refine ⟨new, ?_⟩
    rwa [List.find?_cons_of_neg]
    simpa using fun same : d.key = k => new (same ▸ known)
  | case3 settled d declared unknown ih =>
    rcases List.mem_cons.mp mem with here | later
    · cases here
      refine ⟨unknown, ?_⟩
      rw [List.find?_cons_of_pos (by simp)]
      rfl
    · obtain ⟨new, first⟩ := ih later
      obtain ⟨other, new'⟩ := List.ne_and_not_mem_of_not_mem_cons new
      refine ⟨new', ?_⟩
      rwa [List.find?_cons_of_neg]
      simpa using Ne.symm other

open scoped Classical in
theorem Represents.count_missingProviders (represents : Represents s entered d) (k : Key) :
    (d.graph.missingProviders.map (·.problem)).count (.missingProvider k) =
      if d.graph.Sought k ∧ ¬ d.graph.Supplied k then 1 else 0 := by
  have injective : Function.Injective Problem.missingProvider := fun _ _ =>
    Problem.missingProvider.inj
  have once : (d.graph.wanted.map (·.1)).Nodup := (Graph.wantedFrom_nodup d.graph.demands []).1
  rw [missingProviders_problems, List.count_map_of_injective _ _ injective, (once.filter _).count]
  refine if_congr ?_ rfl rfl
  rw [List.mem_filter, represents.supplied_iff, ← represents.sought_iff]

/-- An input is consumed where it is sought. -/
theorem Represents.mem_consumedInputs (represents : Represents s entered d) {k : Key}
    (input : k ∈ d.graph.inputs.map (·.key)) :
    k ∈ d.graph.consumedInputs ↔ d.graph.Sought k := by
  rw [Graph.consumedInputs, List.mem_filter, ← represents.sought_iff,
    represents.providerOf_input input, (represents.isFlowInput_iff k).mpr input]
  exact and_iff_left rfl

open scoped Classical in
theorem Represents.count_unusedInputs (represents : Represents s entered d) (k : Key) :
    (d.graph.unusedInputs.map (·.problem)).count (.unusedInput k) =
      if k ∈ d.graph.inputs.map (·.key) ∧ ¬ d.graph.Sought k then 1 else 0 := by
  rw [Graph.unusedInputs, count_unusedAmong]
  exact if_congr (and_congr_right fun input => not_congr (represents.mem_consumedInputs input))
    rfl rfl

theorem Represents.soughtAt_of_missing (represents : Represents s entered d) {k : Key}
    {spot : Location} (missing : ⟨spot, .missingProvider k⟩ ∈ d.graph.missingProviders) :
    d.graph.SoughtAt k spot := by
  obtain ⟨x, met, found⟩ := List.mem_filterMap.mp missing
  simp only [Option.ite_none_right_eq_some, Option.some.injEq, Issue.mk.injEq,
    Problem.missingProvider.injEq] at found
  obtain ⟨_, rfl, rfl⟩ := found
  exact represents.soughtAt_of_wanted x met

/-! ## What is reported of each kind -/

theorem filter_of_kind {found : List Issue} {kind : ProblemKind}
    (all : ∀ i ∈ found, i.problem.kind = kind) (kind' : ProblemKind) :
    found.filter (·.problem.kind = kind') = if kind = kind' then found else [] := by
  split
  · rename_i same
    exact List.filter_eq_self.mpr fun i mem => decide_eq_true ((all i mem).trans same)
  · rename_i other
    refine List.filter_eq_nil_iff.mpr fun i mem same => other ?_
    exact (all i mem).symm.trans (of_decide_eq_true same)

/-- The issues of one kind are what one of the checks finds. -/
theorem filter_coverageIssues (g : Graph) (kind : ProblemKind) :
    g.coverageIssues.filter (·.problem.kind = kind) =
      (if .unusedOutput = kind then g.unusedOutputs else []) ++
        (if .missingProvider = kind then g.missingProviders else []) ++
        (if .unusedInput = kind then g.unusedInputs else []) := by
  rw [Graph.coverageIssues, List.filter_append, List.filter_append,
    filter_of_kind g.unusedOutputs_kind, filter_of_kind g.missingProviders_kind,
    filter_of_kind g.unusedInputs_kind]

/-- A problem is looked for among those of its kind. -/
theorem count_problem (found : List Issue) (problem : Problem) :
    (found.map (·.problem)).count problem =
      ((found.filter (·.problem.kind = problem.kind)).map (·.problem)).count problem := by
  rw [List.count, List.countP_map, List.countP_map, List.countP_filter]
  refine List.countP_congr fun i _ => ?_
  simp only [Function.comp_apply, beq_iff_eq, Bool.and_eq_true, decide_eq_true_eq]
  exact (and_iff_left_of_imp (congrArg Problem.kind)).symm

/-- Coverage reports just what is uncovered. -/
theorem Represents.uncovers (represents : Represents s entered d) :
    d.graph.Uncovers d.graph.coverageIssues := by
  have missing := filter_coverageIssues d.graph .missingProvider
  have inputs := filter_coverageIssues d.graph .unusedInput
  have outputs := filter_coverageIssues d.graph .unusedOutput
  simp only [reduceCtorEq, if_true, if_false, List.nil_append, List.append_nil]
    at missing inputs outputs
  constructor
  case kinds => exact d.graph.coverageIssues_kind
  case missing =>
    intro k
    rw [count_problem, Problem.kind, missing, represents.count_missingProviders]
  case missingAt =>
    intro k spot mem
    refine represents.soughtAt_of_missing ?_
    rw [← missing]
    exact List.mem_filter.mpr ⟨mem, rfl⟩
  case inputs =>
    intro k
    rw [count_problem, Problem.kind, inputs, represents.count_unusedInputs]
  case inputsAt =>
    intro k spot mem
    have unused : ⟨spot, .unusedInput k⟩ ∈ d.graph.unusedInputs := by
      rw [← inputs]
      exact List.mem_filter.mpr ⟨mem, rfl⟩
    exact (unusedAmong_at unused).2
  case outputs => rw [outputs, represents.unusedOutputs_eq]

end Draft

namespace Spec

variable {s : Spec} {d : Draft}

/-- Coverage of a graph that is made ends without a fault, whether the graph has cycles or lacks
providers, and reports each key that is sought in vain, each declared input that is not sought and
each listing of an output that nobody receives, once, and nothing else. -/
theorem coverage_is_exact (drafted : s.draft = .ok d) :
    ∃ issues, d.graph.coverageChecked = .ok issues ∧ d.graph.Uncovers issues := by
  have represents := draft_represents drafted
  exact ⟨_, Graph.coverageChecked_eq represents.inRange, represents.uncovers⟩

/-- Two tasks wait for each other, one output comes from nowhere, an input is declared twice and
not used, and two tasks list what nobody receives. -/
def tangledSpec : Spec where
  name := "tangled"
  location := ⟨"flow", 1, 1⟩
  inputs := [⟨.named "in", ⟨"flow", 2, 1⟩⟩, ⟨.named "in", ⟨"flow", 3, 1⟩⟩]
  outputs := [⟨.named "left", ⟨"flow", 4, 1⟩⟩, ⟨.named "lost", ⟨"flow", 5, 1⟩⟩]
  tasks := [
    { location := ⟨"flow", 6, 1⟩
      signature := ⟨[.named "right"], [.named "left", .named "rest"], false⟩ },
    { location := ⟨"flow", 7, 1⟩
      signature := ⟨[.named "left"], [.named "right", .named "rest"], false⟩ }]

theorem coverage_is_exact_tangled :
    ∃ d, tangledSpec.draft = .ok d ∧
      (d.graph.Below (.named "right") (.named "left") ∧
        d.graph.Below (.named "left") (.named "right")) ∧
      ∃ issues, d.graph.coverageChecked = .ok issues ∧
        (issues.map (·.problem)).count (.missingProvider (.named "lost")) = 1 ∧
        (issues.map (·.problem)).count (.unusedInput (.named "in")) = 1 ∧
        issues.filter (·.problem.kind = .unusedOutput) =
          [⟨⟨"flow", 6, 1⟩, .unusedOutput (.named "rest")⟩,
            ⟨⟨"flow", 7, 1⟩, .unusedOutput (.named "rest")⟩] := by
  have made : tangledSpec.draft = .ok _ := rfl
  obtain ⟨issues, checked, uncovers⟩ := coverage_is_exact made
  refine ⟨_, made, ⟨⟨0, rfl, by decide⟩, ⟨1, rfl, by decide⟩⟩, issues, checked, ?_, ?_, ?_⟩
  · rw [uncovers.missing, if_pos]
    refine ⟨⟨_, .output (o := ⟨.named "lost", ⟨"flow", 5, 1⟩⟩) (by decide)⟩, ?_⟩
    rintro (⟨id, found⟩ | input)
    · cases found
    · revert input
      decide
  · rw [uncovers.inputs, if_pos]
    refine ⟨by decide, ?_⟩
    rintro ⟨spot, sought⟩
    exact absurd (sought.received rfl) (by decide)
  · rw [uncovers.outputs]
    rfl

end Spec

end KeyFlow
