import KeyFlow.Plan
import KeyFlow.Proofs.Graph.Covered

/-!
Compiling accepts just the well-formed descriptions. The compiler walks from what is wanted, so a
parameter only has to have a source if something in use takes it. In a description that mentions
none of the keys that the compiler makes for itself everything is in use, and well-formedness is a
condition on all declarations alike.
-/

namespace KeyFlow

namespace Spec

variable {s : Spec}

/-- The plan of a description in which nothing is wrong. -/
def plan (s : Spec) : Plan := ⟨s.graph, s.graph.schedule, s.graph.order⟩

theorem compile_eq_ok_iff (s : Spec) (p : Plan) :
    s.compile = .ok p ↔
      s.Sourced ∧ s.graph.coverageIssues = [] ∧ s.graph.findCycle = none ∧ p = s.plan := by
  have all (d : Draft) : d.allIssues = [] ↔
      d.issues = [] ∧ d.graph.coverageIssues = [] ∧ d.graph.findCycle = none := by
    rw [Draft.allIssues, List.append_eq_nil_iff, List.append_eq_nil_iff, List.map_eq_nil_iff,
      and_assoc]
    cases d.graph.findCycle <;> simp
  constructor
  · intro h
    unfold compile at h
    split at h
    · cases h
    · rename_i d drafted
      split at h
      · rename_i clean
        cases h
        obtain ⟨issues, coverage, cycle⟩ := (all d).mp clean
        obtain ⟨sourced, rfl⟩ := (draft_clean s d).mp ⟨drafted, issues⟩
        exact ⟨sourced, coverage, cycle, rfl⟩
      · cases h
  · rintro ⟨sourced, coverage, cycle, rfl⟩
    obtain ⟨drafted, issues⟩ := (draft_clean s _).mpr ⟨sourced, rfl⟩
    rw [compile, drafted]
    simp only
    rw [(all _).mpr ⟨issues, coverage, cycle⟩]
    rfl

theorem unusedAmong_eq_nil (settled : List Key) (declared : List Declared) :
    Graph.unusedAmong settled declared = [] ↔ ∀ d ∈ declared, d.key ∈ settled := by
  induction declared generalizing settled with
  | nil => simp [Graph.unusedAmong]
  | cons d declared ih =>
    rw [Graph.unusedAmong, List.forall_mem_cons]
    split
    · rename_i known
      rw [ih]
      exact (and_iff_right known).symm
    · rename_i unknown
      exact ⟨nofun, fun h => absurd h.1 unknown⟩

theorem missingProviders_eq_nil (s : Spec) :
    s.graph.missingProviders = [] ↔ ∀ k, s.graph.Wanted k →
      s.graph.providerOf k ≠ none ∨ k ∈ s.inputs.map (·.key) := by
  rw [Graph.missingProviders, List.filterMap_eq_nil_iff]
  have fine (k : Key) (location : Location) :
      (if (s.graph.providerOf k).isNone && !s.graph.isFlowInput k then
        some (⟨location, .missingProvider k⟩ : Issue) else none) = none ↔
        s.graph.providerOf k ≠ none ∨ k ∈ s.inputs.map (·.key) := by
    rw [← isFlowInput_iff]
    cases s.graph.providerOf k <;> cases s.graph.isFlowInput k <;> simp
  constructor
  · intro all k wanted
    obtain ⟨⟨k', location⟩, mem, rfl⟩ := List.mem_map.mp ((s.graph.mem_wanted_iff k).mpr wanted)
    exact (fine k' location).mp (all _ mem)
  · rintro all ⟨k, location⟩ mem
    exact (fine k location).mpr
      (all k ((s.graph.mem_wanted_iff k).mp (List.mem_map.mpr ⟨_, mem, rfl⟩)))

theorem unusedInputs_eq_nil (s : Spec) :
    s.graph.unusedInputs = [] ↔ ∀ k ∈ s.inputs.map (·.key),
      s.graph.Wanted k ∧ s.graph.providerOf k = none := by
  have consumed (k : Key) : k ∈ s.graph.consumedInputs ↔
      s.graph.Wanted k ∧ s.graph.providerOf k = none ∧ k ∈ s.inputs.map (·.key) := by
    rw [Graph.consumedInputs, List.mem_filter, s.graph.mem_wanted_iff, ← isFlowInput_iff,
      Bool.and_eq_true, Option.isNone_iff_eq_none]
  rw [Graph.unusedInputs, unusedAmong_eq_nil, s.graph_inputs]
  constructor
  · intro all k mem
    obtain ⟨d, declared, rfl⟩ := List.mem_map.mp mem
    obtain ⟨wanted, unprovided, _⟩ := (consumed d.key).mp (all d declared)
    exact ⟨wanted, unprovided⟩
  · intro all d declared
    have mem := List.mem_map_of_mem (f := (·.key)) declared
    obtain ⟨wanted, unprovided⟩ := all d.key mem
    exact (consumed d.key).mpr ⟨wanted, unprovided, mem⟩

/-- A description that makes sense as a flow. -/
structure WellFormed (s : Spec) : Prop where
  inputs : (s.inputs.map (·.key)).Nodup
  outputs : (s.outputs.map (·.key)).Nodup
  tasks : ∀ t ∈ s.tasks, t.WellDeclared
  results : ∀ t ∈ s.tasks, t.signature.outputs.Nodup
  /-- No key has two sources. -/
  once : ∀ a b k, s.Gives a k → s.Gives b k → a = b
  apart : ∀ a k, s.Gives a k → k ∉ s.inputs.map (·.key)
  used : s.AllUsed
  given : ∀ k, s.Wants k → (∃ a, s.Gives a k) ∨ k ∈ s.inputs.map (·.key)
  inputsUsed : ∀ k ∈ s.inputs.map (·.key), s.Wants k
  acyclic : ∀ a, ¬ Relation.TransGen s.Needs a a

/-- Coverage, where sources are unique. -/
theorem Sourced.coverage_iff (sourced : s.Sourced) :
    s.graph.coverageIssues = [] ↔ s.AllUsed ∧
      (∀ k, s.Wants k → (∃ a, s.Gives a k) ∨ k ∈ s.inputs.map (·.key)) ∧
      ∀ k ∈ s.inputs.map (·.key), s.Wants k := by
  have provided {k : Key} : s.graph.providerOf k ≠ none ↔ ∃ a, s.Gives a k := by
    rw [Ne, s.providerOf_none, not_not, mem_nodeOutputs_iff sourced.tasks]
  rw [Graph.coverageIssues, List.append_eq_nil_iff, List.append_eq_nil_iff,
    unusedOutputs_eq_nil sourced, missingProviders_eq_nil, unusedInputs_eq_nil, and_assoc]
  refine and_congr_right fun _ => and_congr ?_ (forall₂_congr fun k input => ?_)
  · simp only [provided]
    refine ⟨fun all k wants => all k (sourced.wanted_of_wants wants), fun all k wanted => ?_⟩
    rcases sourced.wants_or_given wanted with wants | gives
    · exact all k wants
    · exact .inl gives
  · have ungiven : ¬ ∃ a, s.Gives a k := fun gives =>
      sourced.apart k ((mem_nodeOutputs_iff sourced.tasks).mpr gives) input
    rw [and_iff_left (not_not.mp (mt provided.mp ungiven))]
    exact ⟨fun wanted => (sourced.wants_or_given wanted).resolve_right ungiven,
      sourced.wanted_of_wants⟩

theorem WellFormed.sourced (formed : s.WellFormed) : s.Sourced :=
  sourced_iff.mpr ⟨formed.inputs, formed.outputs, formed.tasks, formed.results, formed.once,
    formed.apart⟩

/-- What a well-formed description compiles to. -/
theorem compile_eq_plan_iff {p : Plan} : s.compile = .ok p ↔ s.WellFormed ∧ p = s.plan := by
  rw [compile_eq_ok_iff]
  constructor
  · rintro ⟨sourced, coverage, cycle, same⟩
    obtain ⟨used, given, inputsUsed⟩ := sourced.coverage_iff.mp coverage
    obtain ⟨inputs, outputs, tasks, results, once, apart⟩ := sourced_iff.mp sourced
    exact ⟨⟨inputs, outputs, tasks, results, once, apart, used, given, inputsUsed,
      sourced.findCycle_eq_none_iff.mp cycle⟩, same⟩
  · rintro ⟨formed, same⟩
    exact ⟨formed.sourced,
      formed.sourced.coverage_iff.mpr ⟨formed.used, formed.given, formed.inputsUsed⟩,
      formed.sourced.findCycle_eq_none_iff.mpr formed.acyclic, same⟩

/-! ## Descriptions without keys of the compiler -/

theorem Lawful.serves {t : TaskDecl} (declared : t.WellDeclared)
    (used : ∀ k ∈ t.signature.outputs, s.Asks k) : s.Serves t := by
  by_cases invoke : t.invoke = true
  · exact .inl invoke
  · obtain ⟨k, result⟩ := List.exists_mem_of_ne_nil _ fun no => invoke (declared.invoke.mp no)
    exact .inr ⟨k, result, used k result⟩

/-- Where one node needs one other, and that is all, there is no cycle. -/
theorem acyclic_of_needs {a b : NodeKind} (only : ∀ {x y}, s.Needs x y → x = a ∧ y = b)
    (apart : b ≠ a) (x : NodeKind) :
    ¬ Relation.TransGen s.Needs x x := by
  intro cycle
  obtain ⟨_, first, _⟩ := Relation.TransGen.head'_iff.mp cycle
  obtain ⟨_, _, last⟩ := Relation.TransGen.tail'_iff.mp cycle
  exact apart ((only last).2.symm.trans (only first).1)

/-- A flow of one gated task, which can fail and has a value to stand in. -/
def gatedSpec : Spec where
  name := "gated"
  location := ⟨"flow", 1, 1⟩
  inputs := [⟨.named "in", ⟨"flow", 2, 1⟩⟩]
  outputs := [⟨.named "out", ⟨"flow", 3, 1⟩⟩]
  tasks := [{
    name := some "work"
    location := ⟨"flow", 4, 1⟩
    signature := { params := [.context, .named "in"], results := [.named "out", .error] }
    predicate := some ⟨⟨"flow", 5, 1⟩, { params := [.named "in"], results := [.bool] }⟩
    fallback := some [.named "out"] }]

theorem gatedSpec_takes {a : NodeKind} {k : Key} (takes : gatedSpec.Takes a k) :
    k = .named "in" := by
  have only {i : Nat} {t : TaskDecl} (placed : gatedSpec.tasks[i]? = some t) :
      t = gatedSpec.tasks[0] := List.mem_singleton.mp (getElem?_mem placed)
  cases takes with
  | task placed param =>
    rw [only placed] at param
    exact List.mem_singleton.mp param
  | predicate placed gated param =>
    rw [only placed] at gated
    cases gated
    exact List.mem_singleton.mp param

theorem gatedSpec_gives {a : NodeKind} {k : Key} (gives : gatedSpec.Gives a k) :
    (a = .task 0 ∧ k = .named "out") ∨ a = .predicate 0 ∧ k = .verdict 0 := by
  have only {i : Nat} {t : TaskDecl} (placed : gatedSpec.tasks[i]? = some t) :
      i = 0 ∧ t = gatedSpec.tasks[0] :=
    ⟨Nat.lt_one_iff.mp (List.getElem?_eq_some_iff.mp placed).1,
      List.mem_singleton.mp (getElem?_mem placed)⟩
  cases gives with
  | result placed result =>
    obtain ⟨rfl, rfl⟩ := only placed
    exact .inl ⟨rfl, List.mem_singleton.mp result⟩
  | completion placed invoke =>
    obtain ⟨rfl, rfl⟩ := only placed
    cases invoke
  | verdict placed gated =>
    obtain ⟨rfl, rfl⟩ := only placed
    exact .inr ⟨rfl, rfl⟩

/-- Its task needs its predicate, and that is all. -/
theorem gatedSpec_needs {a b : NodeKind} (needs : gatedSpec.Needs a b) :
    a = .task 0 ∧ b = .predicate 0 := by
  cases needs with
  | verdict placed gated =>
    rw [Nat.lt_one_iff.mp (List.getElem?_eq_some_iff.mp placed).1]
    exact ⟨rfl, rfl⟩
  | param takes gives =>
    rw [gatedSpec_takes takes] at gives
    rcases gatedSpec_gives gives with ⟨_, no⟩ | ⟨_, no⟩ <;> exact absurd no (by decide)

theorem gatedSpec_asks {k : Key} (asks : gatedSpec.Asks k) :
    k = .named "out" ∨ k = .named "in" :=
  asks.imp List.mem_singleton.mp fun ⟨_, takes⟩ => gatedSpec_takes takes

theorem gatedSpec_wellFormed : gatedSpec.WellFormed where
  inputs := by decide
  outputs := by decide
  tasks := fun t mem => by
    rw [← TaskDecl.issues_eq_nil]
    revert t
    decide
  results := by decide
  once := by
    intro a b k first second
    rcases gatedSpec_gives first with ⟨rfl, rfl⟩ | ⟨rfl, rfl⟩ <;>
      rcases gatedSpec_gives second with ⟨rfl, no⟩ | ⟨rfl, no⟩ <;> first | rfl | cases no
  apart := by
    intro a k gives
    rcases gatedSpec_gives gives with ⟨_, rfl⟩ | ⟨_, rfl⟩ <;> decide
  used := by
    intro t mem k result _
    obtain rfl := List.mem_singleton.mp mem
    exact .inl result
  given := by
    intro k wants
    rcases gatedSpec_asks wants.asks with rfl | rfl
    · exact .inl ⟨.task 0, .result (i := 0) rfl (List.mem_singleton_self _)⟩
    · exact .inr (List.mem_singleton_self _)
  inputsUsed := by
    intro k input
    have result : gatedSpec.Gives (.task 0) (.named "out") :=
      .result (i := 0) rfl (List.mem_singleton_self _)
    exact .inr ⟨.task 0, .output (List.mem_singleton_self _) result, .task (i := 0) rfl input⟩
  acyclic := acyclic_of_needs gatedSpec_needs (by decide)

end Spec

end KeyFlow
