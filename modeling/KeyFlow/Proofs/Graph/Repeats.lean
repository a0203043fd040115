import KeyFlow.Proofs.Graph.Checked
import KeyFlow.Proofs.Graph.InRange

/-!
Which descriptions compiling faults on. A key is fresh for a declaration if it is no input and no
sound declaration before provides it. A fresh key that is listed twice has no node yet when its
provider is looked up; every other key that is listed again is reported, and no later step looks up
a node that is not there.
-/

namespace KeyFlow

/-- The keys that a declaration at this position provides, the compiler's own among them. -/
def TaskDecl.provides (ordinal : Nat) (t : TaskDecl) : List Key :=
  (taskNodes ordinal t).flatMap (·.outputs)

/-- Among the issues is one at the place of the declaration about its key. -/
def TaskDecl.Answered (t : TaskDecl) (k : Key) (found : List Issue) : Prop :=
  ∃ l, ⟨t.location, .providesInput k l⟩ ∈ found ∨ ⟨t.location, .duplicateProvider k l⟩ ∈ found

theorem TaskDecl.Answered.more {t : TaskDecl} {k : Key} {found found' : List Issue}
    (answered : t.Answered k found) (more : ∀ i ∈ found, i ∈ found') : t.Answered k found' := by
  obtain ⟨l, input | provider⟩ := answered
  · exact ⟨l, .inl (more _ input)⟩
  · exact ⟨l, .inr (more _ provider)⟩

namespace Spec

/-- A sound declaration before this position provides the key. -/
def ProvidedBefore (s : Spec) (i : Nat) (k : Key) : Prop :=
  ∃ j < i, ∃ t, s.tasks[j]? = some t ∧ t.WellDeclared ∧ k ∈ t.provides j

/-- The declaration at this position would be the first to provide the key. -/
def FreshAt (s : Spec) (i : Nat) (k : Key) : Prop :=
  k ∉ s.inputs.map (·.key) ∧ ¬ s.ProvidedBefore i k

/-- The declaration at this position is sound in itself, but lists a fresh key twice. -/
def Repeats (s : Spec) (i : Nat) : Prop :=
  ∃ t k, s.tasks[i]? = some t ∧ t.WellDeclared ∧ 2 ≤ t.signature.outputs.count k ∧ s.FreshAt i k

variable {s : Spec} {i : Nat} {t : TaskDecl} {k : Key}

theorem freshAt_succ (placed : s.tasks[i]? = some t) :
    s.FreshAt (i + 1) k ↔ s.FreshAt i k ∧ (t.WellDeclared → k ∉ t.provides i) := by
  have provided : s.ProvidedBefore (i + 1) k ↔
      s.ProvidedBefore i k ∨ t.WellDeclared ∧ k ∈ t.provides i := by
    constructor
    · rintro ⟨j, lt, u, placed', declared, mem⟩
      rcases Nat.lt_succ_iff_lt_or_eq.mp lt with before | rfl
      · exact .inl ⟨j, before, u, placed', declared, mem⟩
      · rw [placed, Option.some.injEq] at placed'
        exact .inr (placed' ▸ ⟨declared, mem⟩)
    · rintro (⟨j, lt, rest⟩ | ⟨declared, mem⟩)
      · exact ⟨j, Nat.lt_succ_of_lt lt, rest⟩
      · exact ⟨i, Nat.lt_succ_self i, t, placed, declared, mem⟩
  rw [FreshAt, FreshAt, provided, not_or, not_and, and_assoc]

end Spec

namespace Draft

open Spec

/-- What holds of the draft of a description before its task at this position. -/
structure UpTo (s : Spec) (i : Nat) (d : Draft) : Prop where
  kept : d.Kept
  free : ∀ k, d.graph.Free k ↔ s.FreshAt i k
  answered : ∀ j < i, ∀ t, s.tasks[j]? = some t → t.WellDeclared →
    ∀ k ∈ t.signature.outputs, ¬ s.FreshAt j k → t.Answered k d.issues

variable {s : Spec} {i : Nat} {t : TaskDecl} {k : Key} {d d' : Draft}

theorem mem_nodesOf_outputs (index ordinal : Nat) :
    k ∈ (nodesOf index ordinal t).flatMap (·.outputs) ↔ k ∈ t.provides ordinal := by
  rw [TaskDecl.provides, taskNodes, nodesOf]
  cases t.predicate <;> rfl

theorem filter_nodup_iff (p : Key → Bool) (ks : List Key) :
    (ks.filter p).Nodup ↔ ∀ k, p k = true → ks.count k ≤ 1 := by
  rw [List.nodup_iff_count_le_one]
  refine forall_congr' fun k => ?_
  by_cases kept : p k = true
  · rw [List.count_filter kept, imp_iff_right kept]
  · have noRepeats : (ks.filter p).count k = 0 :=
      List.count_eq_zero.mpr fun mem => kept (List.mem_filter.mp mem).2
    exact iff_of_true (noRepeats ▸ Nat.zero_le 1) fun h => absurd h kept

/-- Sound declarations are entered unless they repeat a fresh key. -/
theorem UpTo.nodup_iff (upTo : UpTo s i d) (placed : s.tasks[i]? = some t)
    (declared : t.WellDeclared) :
    (t.signature.outputs.filter (d.graph.Free ·)).Nodup ↔ ¬ s.Repeats i := by
  simp only [filter_nodup_iff, decide_eq_true_eq, upTo.free]
  constructor
  · rintro once ⟨u, k, placed', _, twice, fresh⟩
    rw [placed, Option.some.injEq] at placed'
    subst placed'
    exact absurd (once k fresh) (Nat.not_le.mpr twice)
  · intro noRepeats k fresh
    by_contra twice
    exact noRepeats ⟨t, k, placed, declared, Nat.not_le.mp twice, fresh⟩

theorem UpTo.error_iff (upTo : UpTo s i d) (placed : s.tasks[i]? = some t) :
    (∃ f, d.addTask i t = .error f) ↔ s.Repeats i := by
  by_cases declared : t.WellDeclared
  · rw [addTask_of_declared d i declared, enter_of_inRange upTo.kept.inRange i declared]
    have once := upTo.nodup_iff placed declared
    split
    · rename_i nodup
      simp [once.mp nodup]
    · rename_i twice
      simp [not_not.mp (mt once.mpr twice)]
  · rw [addTask_of_malformed d i declared]
    refine iff_of_false (by simp) ?_
    rintro ⟨u, k, placed', declared', _⟩
    rw [placed, Option.some.injEq] at placed'
    exact absurd (placed' ▸ declared') declared

/-- A task that was entered has an answer for each of its keys that was not free. -/
theorem answered_withTask (ordinal : Nat) (declared : t.WellDeclared)
    (output : k ∈ t.signature.outputs) (taken : ¬ d.graph.Free k) :
    t.Answered k (d.withTask ordinal t).issues := by
  have invoke : ¬ t.invoke = true := fun invoke => by
    rw [declared.invoke.mpr invoke] at output
    cases output
  have provided : k ∈ (taskNode d.graph.tasks.length ordinal t).outputs := by
    rw [taskNode, if_neg invoke]
    exact output
  have clash : d.graph.clash t.location k ≠ none := mt Graph.clash_eq_none.mp taken
  obtain ⟨issue, clashes⟩ := Option.ne_none_iff_exists'.mp clash
  have reported : issue ∈ (d.withNode (taskNode d.graph.tasks.length ordinal t)).issues :=
    List.mem_append_right _ (List.mem_filterMap.mpr ⟨k, provided, clashes⟩)
  obtain ⟨more, issues, _⟩ :=
    (d.withNode (taskNode d.graph.tasks.length ordinal t)).withNodes_issues
      (t.predicate.map (gateNode d.graph.tasks.length ordinal)).toList
  have kept : issue ∈ (d.withTask ordinal t).issues := by
    rw [show (d.withTask ordinal t).issues = _ from issues]
    exact List.mem_append_left _ reported
  obtain ⟨l, rfl | rfl⟩ := Graph.clash_cases clashes
  · exact ⟨l, .inl kept⟩
  · exact ⟨l, .inr kept⟩

/-- Issues stay when a task is added. -/
theorem Kept.addTask_issues (kept : d.Kept) {ordinal : Nat} (added : d.addTask ordinal t = .ok d') :
    ∀ issue ∈ d.issues, issue ∈ d'.issues := by
  intro issue mem
  rcases addTask_cases kept.inRange added with ⟨_, rfl⟩ | ⟨_, _, rfl⟩
  · exact List.mem_append_left _ mem
  · obtain ⟨more, issues, _⟩ := d.withNodes_issues (nodesOf d.graph.tasks.length ordinal t)
    rw [show (d.withTask ordinal t).issues = _ from issues]
    exact List.mem_append_left _ mem

theorem UpTo.step (upTo : UpTo s i d) (placed : s.tasks[i]? = some t)
    (added : d.addTask i t = .ok d') : UpTo s (i + 1) d' where
  kept := upTo.kept.addTask added
  free k := by
    rw [freshAt_succ placed, ← upTo.free]
    rcases addTask_cases upTo.kept.inRange added with ⟨malformed, rfl⟩ | ⟨declared, _, rfl⟩
    · exact (and_iff_left fun declared => absurd declared malformed).symm
    · rw [imp_iff_right declared, ← mem_nodesOf_outputs d.graph.tasks.length i]
      exact free_withNodes
  answered j lt u placed' declared k output taken := by
    rcases Nat.lt_succ_iff_lt_or_eq.mp lt with before | rfl
    · exact (upTo.answered j before u placed' declared k output taken).more
        (upTo.kept.addTask_issues added)
    · rw [placed, Option.some.injEq] at placed'
      subst placed'
      rcases addTask_cases upTo.kept.inRange added with ⟨malformed, _⟩ | ⟨_, _, rfl⟩
      · exact absurd declared malformed
      · exact answered_withTask j declared output fun free => taken ((upTo.free k).mp free)

/-- The declarations that are left fault just if one of them repeats a fresh key. -/
theorem UpTo.run (upTo : UpTo s i d) (le : i ≤ s.tasks.length) :
    ((∃ f, d.addTasks i (s.tasks.drop i) = .error f) ↔ ∃ j ≥ i, s.Repeats j) ∧
      ∀ d', d.addTasks i (s.tasks.drop i) = .ok d' → UpTo s s.tasks.length d' := by
  induction rest : s.tasks.drop i generalizing i d with
  | nil =>
    have all : s.tasks.length = i := Nat.le_antisymm (List.drop_eq_nil_iff.mp rest) le
    refine ⟨iff_of_false (by simp [addTasks]) ?_, fun d' added => ?_⟩
    · rintro ⟨j, later, t, k, placed, _⟩
      exact absurd (List.getElem?_eq_some_iff.mp placed).1 (by omega)
    · cases added
      exact all ▸ upTo
  | cons t ts ih =>
    have placed : s.tasks[i]? = some t := by
      rw [← Nat.add_zero i, ← List.getElem?_drop, rest]
      rfl
    have later : s.tasks.drop (i + 1) = ts := by
      rw [← List.tail_drop, rest]
      rfl
    have here := upTo.error_iff placed
    rw [addTasks]
    cases added : d.addTask i t with
    | error f =>
      refine ⟨iff_of_true ⟨f, rfl⟩ ⟨i, Nat.le_refl i, here.mp ⟨f, added⟩⟩, ?_⟩
      exact fun d' h => by cases h
    | ok d₁ =>
      have sound : ¬ s.Repeats i := fun repeats => by
        obtain ⟨f, failed⟩ := here.mpr repeats
        rw [added] at failed
        cases failed
      obtain ⟨faults, drafted⟩ :=
        ih (upTo.step placed added) (List.getElem?_eq_some_iff.mp placed).1 later
      refine ⟨faults.trans ⟨?_, ?_⟩, drafted⟩
      · rintro ⟨j, le, repeats⟩
        exact ⟨j, Nat.le_of_succ_le le, repeats⟩
      · rintro ⟨j, le, repeats⟩
        have ne : i ≠ j := fun same => sound (same ▸ repeats)
        exact ⟨j, Nat.lt_of_le_of_ne le ne, repeats⟩

/-! ## The whole description -/

/-- Declaring inputs makes just their keys inputs, and no provider. -/
theorem addInputs_free (inputs : List Declared) :
    (inputs.foldl addInput d).graph.providers = d.graph.providers ∧
      ((inputs.foldl addInput d).graph.inputAt k = none ↔
        d.graph.inputAt k = none ∧ k ∉ inputs.map (·.key)) := by
  induction inputs generalizing d with
  | nil => simp
  | cons input inputs ih =>
    obtain ⟨providers, inputAt⟩ := ih (d := d.addInput input)
    rw [List.foldl_cons, providers, inputAt, addInput, List.map_cons, List.mem_cons, not_or]
    split
    · rename_i declared taken
      refine ⟨rfl, and_congr_right fun free => (and_iff_right ?_).symm⟩
      rintro rfl
      rw [taken] at free
      cases free
    · refine ⟨rfl, ?_⟩
      rw [Graph.inputAt, List.lookup_append, Option.or_eq_none_iff, and_assoc]
      refine and_congr Iff.rfl (and_congr ?_ Iff.rfl)
      rw [lookup_eq_none]
      simp

theorem addOutputs_free (outputs : List Declared) :
    (outputs.foldl addOutput d).graph.providers = d.graph.providers ∧
      (outputs.foldl addOutput d).graph.inputAt k = d.graph.inputAt k := by
  induction outputs generalizing d with
  | nil => exact ⟨rfl, rfl⟩
  | cons output outputs ih =>
    obtain ⟨providers, inputAt⟩ := ih (d := d.addOutput output)
    rw [List.foldl_cons, providers, inputAt, addOutput]
    split <;> exact ⟨rfl, rfl⟩

end Draft

namespace Spec

variable {s : Spec}

theorem opening_upTo (s : Spec) : Draft.UpTo s 0 s.opening where
  kept := s.opening_kept
  free k := by
    obtain ⟨providers, inputAt⟩ := Draft.addOutputs_free (k := k)
      (d := s.inputs.foldl Draft.addInput ⟨s.emptyGraph, []⟩) s.outputs
    obtain ⟨providers', inputAt'⟩ :=
      Draft.addInputs_free (k := k) (d := ⟨s.emptyGraph, []⟩) s.inputs
    have start : ¬ s.ProvidedBefore 0 k := fun ⟨j, lt, _⟩ => absurd lt (Nat.not_lt_zero j)
    rw [opening, Graph.Free, inputAt, inputAt', Graph.providerOf, providers, providers', FreshAt]
    exact and_congr (and_iff_right rfl) (iff_of_true rfl start)
  answered j lt := absurd lt (Nat.not_lt_zero j)

theorem draft_faults_iff : (∃ f, s.draft = .error f) ↔ ∃ i, s.Repeats i := by
  have run := (s.opening_upTo.run (Nat.zero_le _)).1
  rw [List.drop_zero] at run
  refine run.trans (exists_congr fun i => and_iff_right (Nat.zero_le i))

theorem compile_faults_iff : (∃ f, s.compile = .error (.fault f)) ↔ ∃ i, s.Repeats i := by
  rw [← draft_faults_iff]
  unfold compile
  cases s.draft with
  | error f => simp
  | ok d =>
    refine iff_of_false ?_ (by simp)
    rintro ⟨f, h⟩
    simp only at h
    split at h <;> cases h

/-- Where nothing faults, a key that is listed again is reported where it is listed. -/
theorem finds_of_listed_again {d : Draft} (drafted : s.draft = .ok d) {i : Nat} {t : TaskDecl}
    {k : Key} (placed : s.tasks[i]? = some t) (declared : t.WellDeclared)
    (output : k ∈ t.signature.outputs) (again : k ∈ s.inputs.map (·.key) ∨ s.ProvidedBefore i k ∨
      2 ≤ t.signature.outputs.count k) :
    ∃ l, s.Finds ⟨t.location, .providesInput k l⟩ ∨
      s.Finds ⟨t.location, .duplicateProvider k l⟩ := by
  have run := s.opening_upTo.run (Nat.zero_le _)
  rw [List.drop_zero] at run
  have upTo := run.2 d drafted
  have taken : ¬ s.FreshAt i k := by
    rintro ⟨input, provided⟩
    rcases again with input' | provided' | twice
    · exact input input'
    · exact provided provided'
    · obtain ⟨f, failed⟩ := draft_faults_iff.mpr ⟨i, t, k, placed, declared, twice, input, provided⟩
      rw [drafted] at failed
      cases failed
  have lt := (List.getElem?_eq_some_iff.mp placed).1
  have answered := upTo.answered i lt t placed declared k output taken
  simp only [finds_iff drafted]
  exact answered.more fun issue mem =>
    List.mem_append_left _ (List.mem_append_left _ mem)

/-- Every step of compiling checked gives the same answer, and it is a fault just if a sound
declaration lists a key twice that it is the first to provide. Without such a declaration every
output that is an input, provided before or listed twice is reported at the place of its task. -/
theorem faults_only_on_repeats (s : Spec) :
    s.compileChecked = s.compile ∧
      ((∃ f, s.compile = .error (.fault f)) ↔ ∃ i, s.Repeats i) ∧
      ((∀ i, ¬ s.Repeats i) → ∀ i t k, s.tasks[i]? = some t → t.WellDeclared →
        k ∈ t.signature.outputs →
        k ∈ s.inputs.map (·.key) ∨ s.ProvidedBefore i k ∨ 2 ≤ t.signature.outputs.count k →
        ∃ l, s.Finds ⟨t.location, .providesInput k l⟩ ∨
          s.Finds ⟨t.location, .duplicateProvider k l⟩) := by
  refine ⟨s.compileChecked_eq, compile_faults_iff, ?_⟩
  intro noRepeats i t k placed declared output again
  cases drafted : s.draft with
  | error f =>
    obtain ⟨j, repeats⟩ := draft_faults_iff.mp ⟨f, drafted⟩
    exact absurd repeats (noRepeats j)
  | ok d => exact finds_of_listed_again drafted placed declared output again

/-- An input that is provided, and twice a key of an earlier task. -/
def clashingSpec : Spec where
  name := "clashing"
  location := ⟨"flow", 1, 1⟩
  inputs := [⟨.named "in", ⟨"flow", 2, 1⟩⟩]
  outputs := [⟨.named "out", ⟨"flow", 3, 1⟩⟩]
  tasks := [
    { location := ⟨"flow", 4, 1⟩, signature := ⟨[], [.named "in", .named "out"], false⟩ },
    { location := ⟨"flow", 5, 1⟩, signature := ⟨[], [.named "out", .named "out"], false⟩ }]

theorem faults_only_on_repeats_clashing :
    (∀ i, ¬ clashingSpec.Repeats i) ∧
      ∃ l, clashingSpec.Finds ⟨⟨"flow", 5, 1⟩, .providesInput (.named "out") l⟩ ∨
        clashingSpec.Finds ⟨⟨"flow", 5, 1⟩, .duplicateProvider (.named "out") l⟩ := by
  obtain ⟨d, drafted⟩ : ∃ d, clashingSpec.draft = .ok d := ⟨_, rfl⟩
  have noRepeats : ∀ i, ¬ clashingSpec.Repeats i := fun i repeats => by
    obtain ⟨f, failed⟩ := draft_faults_iff.mpr ⟨i, repeats⟩
    rw [drafted] at failed
    cases failed
  have declared : clashingSpec.tasks[1].WellDeclared :=
    ⟨by constructor <;> decide, by decide, nofun, nofun⟩
  refine ⟨noRepeats, ?_⟩
  exact (faults_only_on_repeats clashingSpec).2.2 noRepeats 1 _ _ rfl declared
    (List.mem_cons_self ..) (.inr (.inr (by decide)))

/-- A task that lists its only output twice. -/
def repeatingSpec : Spec where
  name := "repeating"
  location := ⟨"flow", 1, 1⟩
  inputs := []
  outputs := [⟨.named "out", ⟨"flow", 2, 1⟩⟩]
  tasks := [
    { location := ⟨"flow", 3, 1⟩, signature := ⟨[], [.named "out", .named "out"], false⟩ }]

/-- The second listing is no issue: compiling looks up the node that is still to come. -/
theorem repeating_faults :
    (∀ t ∈ repeatingSpec.tasks, t.WellDeclared) ∧
      repeatingSpec.compile = .error (.fault (.missingNode 0)) := by
  refine ⟨List.forall_mem_singleton.mpr ?_, rfl⟩
  exact ⟨by constructor <;> decide, by decide, nofun, nofun⟩

end Spec

end KeyFlow
