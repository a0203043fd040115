import Mathlib.Data.Set.Card
import KeyFlow.Proofs.Graph.Declared

/-!
When a signature has a shape, and what a shape tells of it. The markers of a signature with a shape
stand where they belong, and the shape and the signature can be made from each other; of every other
signature that is not variadic each misplaced marker is a problem, in the order in which they stand.
-/

namespace KeyFlow

/-! ## Findings in a list -/

/-- What is found in a list, element by element, each with its position. -/
def findings {α β : Type} (find : Nat → α → Option β) (as : List α) : List (Nat × β) :=
  as.zipIdx.filterMap fun a => (find a.2 a.1).map (a.2, ·)

section

variable {α β : Type} {find : Nat → α → Option β} {as : List α}

theorem zipIdx_sorted (as : List α) : as.zipIdx.Pairwise (·.2 < ·.2) := by
  refine List.pairwise_map.mp ?_
  rw [List.zipIdx_map_snd]
  exact List.pairwise_lt_range'

theorem findings_sorted : (findings find as).Pairwise (·.1 < ·.1) := by
  refine (zipIdx_sorted as).filterMap _ fun a a' before b found b' found' => ?_
  obtain ⟨_, _, rfl⟩ := Option.map_eq_some_iff.mp found
  obtain ⟨_, _, rfl⟩ := Option.map_eq_some_iff.mp found'
  exact before

theorem mem_findings {i : Nat} {b : β} :
    (i, b) ∈ findings find as ↔ ∃ a, as[i]? = some a ∧ find i a = some b := by
  rw [findings, List.mem_filterMap]
  constructor
  · rintro ⟨⟨a, j⟩, mem, found⟩
    obtain ⟨_, found, same⟩ := Option.map_eq_some_iff.mp found
    cases same
    exact ⟨a, List.mk_mem_zipIdx_iff_getElem?.mp mem, found⟩
  · rintro ⟨a, placed, found⟩
    exact ⟨(a, i), List.mk_mem_zipIdx_iff_getElem?.mpr placed,
      Option.map_eq_some_iff.mpr ⟨b, found, rfl⟩⟩

theorem map_findings :
    (findings find as).map (·.2) = as.zipIdx.filterMap fun a => find a.2 a.1 := by
  rw [findings, List.map_filterMap]
  refine List.filterMap_congr fun a _ => ?_
  rw [Option.map_map]
  exact Option.map_id'

end

namespace Signature

/-! ## Misplaced markers -/

/-- A place in a signature, counted from 0 in either list. -/
inductive Position where
  | param (i : Nat)
  | result (i : Nat)
  deriving DecidableEq, Repr

/-- Parameters stand before results. -/
def Position.Before : Position → Position → Prop
  | .param i, .param j => i < j
  | .param _, .result _ => True
  | .result _, .param _ => False
  | .result i, .result j => i < j

/-- A marker at this position does not belong there, and this is what it is a misuse of. -/
inductive Misused (s : Signature) : Position → Misuse → Prop
  | contextNotFirst {i : Nat} (placed : s.params[i]? = some .context) (later : i ≠ 0) :
    Misused s (.param i) .contextNotFirst
  | errorParam {i : Nat} (placed : s.params[i]? = some .error) : Misused s (.param i) .errorParam
  | errorNotLast {i : Nat} (placed : s.results[i]? = some .error)
    (earlier : i + 1 ≠ s.results.length) : Misused s (.result i) .errorNotLast
  | contextResult {i : Nat} (placed : s.results[i]? = some .context) :
    Misused s (.result i) .contextResult

/-- All misplaced markers of a signature in order, each with its misuse. -/
structure Listing (s : Signature) (marked : List (Position × Misuse)) : Prop where
  sorted : marked.Pairwise (·.1.Before ·.1)
  complete : ∀ p m, (p, m) ∈ marked ↔ s.Misused p m

theorem Position.Before.ne {p q : Position} (before : p.Before q) : p ≠ q := by
  rintro rfl
  cases p <;> exact Nat.lt_irrefl _ before

/-- No position is listed twice, so a listing is as long as there are misplaced markers. -/
theorem Listing.length_eq {s : Signature} {marked : List (Position × Misuse)}
    (listing : s.Listing marked) : marked.length = {p | ∃ m, s.Misused p m}.ncard := by
  have once : (marked.map (·.1)).Nodup :=
    List.pairwise_map.mpr (listing.sorted.imp Position.Before.ne)
  have all : {p | ∃ m, s.Misused p m} = ↑(marked.map (·.1)).toFinset := by
    ext p
    simp [listing.complete]
  rw [all, Set.ncard_coe_finset, List.toFinset_card_of_nodup once, List.length_map]

/-- What a parameter is a misuse of, if it is one. -/
def paramMisuse? (i : Nat) : Key → Option Misuse
  | .context => if i = 0 then none else some .contextNotFirst
  | .error => some .errorParam
  | _ => none

/-- What one of so many results is a misuse of, if it is one. -/
def resultMisuse? (count i : Nat) : Key → Option Misuse
  | .error => if i + 1 = count then none else some .errorNotLast
  | .context => some .contextResult
  | _ => none

theorem paramMisuses_cons (i : Nat) (k : Key) (ks : List Key) :
    paramMisuses (i == 0) (k :: ks) = (paramMisuse? i k).toList ++ paramMisuses false ks := by
  cases k with
  | context => by_cases first : i = 0 <;> simp [paramMisuses, paramMisuse?, first]
  | _ => rfl

theorem resultMisuses_cons (i : Nat) (k : Key) (ks : List Key) :
    resultMisuses (k :: ks) =
      (resultMisuse? (i + (k :: ks).length) i k).toList ++ resultMisuses ks := by
  cases k with
  | error => cases ks <;> simp [resultMisuses, resultMisuse?]
  | _ => rfl

/-- The parameters are looked at one by one; the first of them here has position `i`. -/
theorem paramMisuses_eq (i : Nat) (ks : List Key) :
    paramMisuses (i == 0) ks = (ks.zipIdx i).filterMap fun k => paramMisuse? k.2 k.1 := by
  induction ks generalizing i with
  | nil => rfl
  | cons k ks ih =>
    have rest := ih (i + 1)
    rw [beq_false_of_ne (Nat.succ_ne_zero i)] at rest
    rw [paramMisuses_cons, rest, List.zipIdx_cons, List.filterMap_cons]
    cases paramMisuse? i k <;> rfl

/-- As for parameters. Where the last result stands is the same for all of them. -/
theorem resultMisuses_eq (i : Nat) (ks : List Key) :
    resultMisuses ks =
      (ks.zipIdx i).filterMap fun k => resultMisuse? (i + ks.length) k.2 k.1 := by
  induction ks generalizing i with
  | nil => rfl
  | cons k ks ih =>
    have last : i + 1 + ks.length = i + (k :: ks).length := by
      rw [List.length_cons]
      omega
    have rest := ih (i + 1)
    rw [last] at rest
    rw [resultMisuses_cons i, rest, List.zipIdx_cons, List.filterMap_cons]
    cases resultMisuse? (i + (k :: ks).length) i k <;> rfl

/-- The misplaced markers of both lists. -/
def marked (s : Signature) : List (Position × Misuse) :=
  (findings paramMisuse? s.params).map (fun x => (.param x.1, x.2)) ++
    (findings (resultMisuse? s.results.length) s.results).map fun x => (.result x.1, x.2)

theorem marked_misuses (s : Signature) (fixed : s.variadic = false) :
    s.marked.map (·.2) = s.misuses := by
  have params := paramMisuses_eq 0 s.params
  have results := resultMisuses_eq 0 s.results
  rw [Nat.zero_add] at results
  rw [misuses, if_neg (by rw [fixed]; decide), marked, List.map_append, List.map_map, List.map_map]
  exact congrArg₂ _ (map_findings.trans params.symm) (map_findings.trans results.symm)

theorem misused_param {s : Signature} {i : Nat} {m : Misuse} :
    s.Misused (.param i) m ↔ ∃ k, s.params[i]? = some k ∧ paramMisuse? i k = some m := by
  constructor
  · rintro (⟨placed, later⟩ | ⟨placed⟩)
    · exact ⟨_, placed, if_neg later⟩
    · exact ⟨_, placed, rfl⟩
  · rintro ⟨k, placed, found⟩
    cases k <;> simp only [paramMisuse?, reduceCtorEq] at found
    · split at found <;> cases found
      exact .contextNotFirst placed ‹_›
    · cases found
      exact .errorParam placed

theorem misused_result {s : Signature} {i : Nat} {m : Misuse} :
    s.Misused (.result i) m ↔
      ∃ k, s.results[i]? = some k ∧ resultMisuse? s.results.length i k = some m := by
  constructor
  · rintro (_ | _ | ⟨placed, earlier⟩ | ⟨placed⟩)
    · exact ⟨_, placed, if_neg earlier⟩
    · exact ⟨_, placed, rfl⟩
  · rintro ⟨k, placed, found⟩
    cases k <;> simp only [resultMisuse?, reduceCtorEq] at found
    · cases found
      exact .contextResult placed
    · split at found <;> cases found
      exact .errorNotLast placed ‹_›

theorem marked_listing (s : Signature) : s.Listing s.marked where
  sorted := by
    refine List.pairwise_append.mpr ⟨List.pairwise_map.mpr findings_sorted,
      List.pairwise_map.mpr findings_sorted, fun a mem b mem' => ?_⟩
    obtain ⟨_, _, rfl⟩ := List.mem_map.mp mem
    obtain ⟨_, _, rfl⟩ := List.mem_map.mp mem'
    trivial
  complete p m := by
    cases p with
    | param i => simp [marked, misused_param, ← mem_findings]
    | result i => simp [marked, misused_result, ← mem_findings]

/-- A signature that is not variadic is well shaped just if no marker is misplaced. -/
theorem wellShaped_iff_unmisused (s : Signature) :
    s.WellShaped ↔ s.variadic = false ∧ ∀ p m, ¬ s.Misused p m := by
  constructor
  · intro shaped
    have noProblems := List.map_eq_nil_iff.mp
      ((s.marked_misuses shaped.fixed).trans (s.misuses_eq_nil.mpr shaped))
    refine ⟨shaped.fixed, fun p m misused => ?_⟩
    have mem := (s.marked_listing.complete p m).mpr misused
    rw [noProblems] at mem
    cases mem
  · rintro ⟨fixed, noProblems⟩
    rw [← s.misuses_eq_nil, ← s.marked_misuses fixed, List.map_eq_nil_iff,
      List.eq_nil_iff_forall_not_mem]
    exact fun a mem => noProblems _ _ ((s.marked_listing.complete _ _).mp mem)

/-- The problems that the look for a shape ends with. -/
def problems (s : Signature) : List Misuse :=
  match s.shape with
  | .ok _ => []
  | .error misuses => misuses

theorem problems_eq (s : Signature) : s.problems = s.misuses := by
  rw [problems, shape]
  cases s.misuses <;> rfl

end Signature

/-! ## Shapes -/

theorem Key.isMarker_eq_false_iff {k : Key} : k.isMarker = false ↔ k ≠ .context ∧ k ≠ .error := by
  cases k <;> simp [isMarker]

theorem filter_eq_of_unmarked {ks : List Key} (unmarked : ∀ k ∈ ks, k ≠ .context ∧ k ≠ .error) :
    ks.filter (!·.isMarker) = ks :=
  List.filter_eq_self.mpr fun k mem => by rw [Key.isMarker_eq_false_iff.mpr (unmarked k mem)]; rfl

theorem unmarked_filter (ks : List Key) :
    ∀ k ∈ ks.filter (!·.isMarker), k ≠ .context ∧ k ≠ .error := by
  intro k mem
  rw [← Key.isMarker_eq_false_iff, ← Bool.not_eq_true']
  exact (List.mem_filter.mp mem).2

/-- The shape and the signature can be made from each other: no marker is left in the shape, and the
signature has the context first, if it is wanted, and the error last, if there is one. -/
structure Shape.Of (shape : Shape) (s : Signature) : Prop where
  fixed : s.variadic = false
  params : s.params = (if shape.wantsContext then [.context] else []) ++ shape.inputs
  results : s.results = shape.outputs ++ (if shape.hasError then [.error] else [])
  unmarked : ∀ k ∈ shape.inputs ++ shape.outputs, k ≠ .context ∧ k ≠ .error

namespace Signature

variable {s : Signature} {shape : Shape}

/-- What is taken from the list of parameters can be put back. -/
theorem params_split {ks : List Key} (later : Key.context ∉ ks.tail) (noError : Key.error ∉ ks) :
    ks = (if ks.head? == some .context then [.context] else []) ++ ks.filter (!·.isMarker) := by
  cases ks with
  | nil => rfl
  | cons k ks =>
    -- Behind the first parameter there is no marker at all.
    have rest : ks.filter (!·.isMarker) = ks := filter_eq_of_unmarked fun _ mem =>
      ⟨fun is => later (is ▸ mem), fun is => noError (List.mem_cons_of_mem _ (is ▸ mem))⟩
    cases k with
    | error => exact absurd (List.mem_cons_self ..) noError
    | _ =>
      rw [List.filter_cons, rest]
      rfl

/-- What is taken from the list of results can be put back. -/
theorem results_split {ks : List Key} (earlier : Key.error ∉ ks.dropLast)
    (noContext : Key.context ∉ ks) :
    ks = ks.filter (!·.isMarker) ++ (if ks.getLast? == some .error then [.error] else []) := by
  rcases ks.eq_nil_or_concat' with rfl | ⟨ks, k, rfl⟩
  · rfl
  rw [List.dropLast_concat] at earlier
  -- Neither is there one before the last result.
  have rest : ks.filter (!·.isMarker) = ks := filter_eq_of_unmarked fun _ mem =>
    ⟨fun is => noContext (List.mem_append_left _ (is ▸ mem)), fun is => earlier (is ▸ mem)⟩
  rw [List.getLast?_concat, List.filter_append, rest]
  cases k with
  | context => exact absurd (List.mem_append_right _ (List.mem_singleton_self _)) noContext
  | _ => simp [Key.isMarker]

theorem WellShaped.shape_eq (shaped : s.WellShaped) :
    s.shape = .ok ⟨s.inputs, s.outputs, s.wantsContext, s.hasError⟩ := by
  rw [Signature.shape, s.misuses_eq_nil.mpr shaped]

theorem WellShaped.shape_of (shaped : s.WellShaped) :
    Shape.Of ⟨s.inputs, s.outputs, s.wantsContext, s.hasError⟩ s where
  fixed := shaped.fixed
  params := params_split shaped.contextFirst shaped.noErrorParam
  results := results_split shaped.errorLast shaped.noContextResult
  unmarked := List.forall_mem_append.mpr ⟨unmarked_filter _, unmarked_filter _⟩

end Signature

namespace Shape.Of

variable {s : Signature} {shape : Shape}

theorem inputs_unmarked (of : shape.Of s) :
    Key.context ∉ shape.inputs ∧ Key.error ∉ shape.inputs :=
  ⟨fun mem => (of.unmarked _ (List.mem_append_left _ mem)).1 rfl,
    fun mem => (of.unmarked _ (List.mem_append_left _ mem)).2 rfl⟩

theorem outputs_unmarked (of : shape.Of s) :
    Key.context ∉ shape.outputs ∧ Key.error ∉ shape.outputs :=
  ⟨fun mem => (of.unmarked _ (List.mem_append_right _ mem)).1 rfl,
    fun mem => (of.unmarked _ (List.mem_append_right _ mem)).2 rfl⟩

theorem wellShaped (of : shape.Of s) : s.WellShaped where
  fixed := of.fixed
  contextFirst mem := by
    rw [of.params] at mem
    cases wants : shape.wantsContext <;> rw [wants] at mem
    · exact of.inputs_unmarked.1 (List.mem_of_mem_tail mem)
    · exact of.inputs_unmarked.1 mem
  noErrorParam mem := by
    rw [of.params, List.mem_append] at mem
    rcases mem with mem | mem
    · have only := List.mem_singleton.mp (List.mem_ite_nil_right.mp mem).2
      cases only
    · exact of.inputs_unmarked.2 mem
  errorLast mem := by
    rw [of.results] at mem
    cases fails : shape.hasError <;> rw [fails] at mem
    · exact of.outputs_unmarked.2 (List.mem_of_mem_dropLast (by simpa using mem))
    · exact of.outputs_unmarked.2 (by simpa using mem)
  noContextResult mem := by
    rw [of.results, List.mem_append] at mem
    rcases mem with mem | mem
    · exact of.outputs_unmarked.1 mem
    · have only := List.mem_singleton.mp (List.mem_ite_nil_right.mp mem).2
      cases only

/-- Nothing but this shape is left of a signature. -/
theorem eq (of : shape.Of s) : shape = ⟨s.inputs, s.outputs, s.wantsContext, s.hasError⟩ := by
  have inputs : s.inputs = shape.inputs := by
    rw [Signature.inputs, of.params, List.filter_append,
      filter_eq_of_unmarked fun k mem => of.unmarked k (List.mem_append_left _ mem)]
    cases shape.wantsContext <;> rfl
  have outputs : s.outputs = shape.outputs := by
    rw [Signature.outputs, of.results, List.filter_append,
      filter_eq_of_unmarked fun k mem => of.unmarked k (List.mem_append_right _ mem)]
    cases shape.hasError <;> exact List.append_nil _
  have wantsContext : s.wantsContext = shape.wantsContext := by
    rw [Signature.wantsContext, of.params]
    cases shape.wantsContext with
    | true => rfl
    | false => exact beq_false_of_ne fun head => of.inputs_unmarked.1 (List.mem_of_mem_head? head)
  have hasError : s.hasError = shape.hasError := by
    rw [Signature.hasError, of.results]
    cases shape.hasError with
    | true => exact beq_iff_eq.mpr List.getLast?_concat
    | false =>
      refine beq_false_of_ne fun last => of.outputs_unmarked.2 (List.mem_of_mem_getLast? ?_)
      simpa using last
  rw [inputs, outputs, wantsContext, hasError]

theorem shape_eq (of : shape.Of s) : s.shape = .ok shape := by
  rw [of.wellShaped.shape_eq, ← of.eq]

/-- Signatures of one shape are the same. -/
theorem injective {s' : Signature} (of : shape.Of s) (of' : shape.Of s') : s = s' := by
  have params := of.params.trans of'.params.symm
  have results := of.results.trans of'.results.symm
  have variadic := of.fixed.trans of'.fixed.symm
  cases s
  cases s'
  rw [Signature.mk.injEq]
  exact ⟨params, results, variadic⟩

end Shape.Of

namespace Signature

theorem shape_eq_ok_iff {s : Signature} {shape : Shape} : s.shape = .ok shape ↔ shape.Of s := by
  refine ⟨fun ok => ?_, Shape.Of.shape_eq⟩
  -- A shape is found only where there are no problems; then it is the one made of the signature.
  have noProblems : s.problems = [] := by rw [problems, ok]
  rw [problems_eq, misuses_eq_nil] at noProblems
  rw [noProblems.shape_eq] at ok
  cases ok
  exact noProblems.shape_of

/-- A signature has a shape just if it is not variadic and all its markers stand where they belong,
and then the two can be made from each other. A variadic signature is refused for that alone; of any
other one each misplaced marker is a problem, in the order of their positions. -/
theorem shape_is_exact (s : Signature) :
    ((∃ shape, s.shape = .ok shape) ↔ s.WellShaped) ∧
    (∀ shape, s.shape = .ok shape ↔ shape.Of s) ∧
    (s.variadic = true → s.shape = .error [.variadic]) ∧
    (s.variadic = false →
      s.problems.length = {p | ∃ m, s.Misused p m}.ncard ∧
        ∃ marked, s.Listing marked ∧ s.problems = marked.map (·.2)) := by
  refine ⟨⟨?_, fun shaped => ⟨_, shaped.shape_eq⟩⟩, fun _ => shape_eq_ok_iff, fun variadic => ?_,
    fun fixed => ?_⟩
  · rintro ⟨shape, ok⟩
    exact (shape_eq_ok_iff.mp ok).wellShaped
  · rw [Signature.shape, misuses, if_pos variadic]
  · have listing := s.marked_listing
    have all : s.problems = s.marked.map (·.2) := by rw [problems_eq, s.marked_misuses fixed]
    have count : s.problems.length = {p | ∃ m, s.Misused p m}.ncard := by
      rw [all, List.length_map, listing.length_eq]
    exact ⟨count, _, listing, all⟩

/-- Markers at their places, and behind each a misplaced one. -/
def tangledSignature : Signature where
  params := [.context, .context, .named "in", .error]
  results := [.error, .context, .named "out", .error]

/-- The same keys without the misplaced markers. -/
def untangledSignature : Signature where
  params := [.context, .named "in"]
  results := [.named "out", .error]

example : tangledSignature.problems =
    [.contextNotFirst, .errorParam, .errorNotLast, .contextResult] := rfl

theorem shape_is_exact_tangled :
    tangledSignature.variadic = false ∧ ¬ tangledSignature.WellShaped ∧
      {p | ∃ m, tangledSignature.Misused p m}.ncard = 4 ∧
      untangledSignature.WellShaped ∧
      Shape.Of ⟨[.named "in"], [.named "out"], true, true⟩ untangledSignature ∧
      ({ untangledSignature with variadic := true } : Signature).shape = .error [.variadic] := by
  have tangled := shape_is_exact tangledSignature
  have untangled := shape_is_exact untangledSignature
  refine ⟨rfl, fun shaped => ?_, (tangled.2.2.2 rfl).1.symm, untangled.1.mp ⟨_, rfl⟩,
    (untangled.2.1 _).mp rfl, (shape_is_exact _).2.2.1 rfl⟩
  obtain ⟨_, ok⟩ := tangled.1.mpr shaped
  cases ok

end Signature

end KeyFlow
