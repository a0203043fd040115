import KeyFlow.Flow.State
import KeyFlow.Proofs.Graph.Covered

/-!
What is in a store after writes to slots that were empty, and at the start of a run whose inputs are
those that its flow declares.
-/

namespace KeyFlow

namespace Store

variable {α : Type} {s : Store α}

def keys (s : Store α) : List Key := s.slots.map (·.1)

/-- The slot is there and empty. -/
def IsFree (s : Store α) (k : Key) : Prop := k ∈ s.keys ∧ s.get? k = none

theorem lookup_set_self {slots : List (Key × Option α)} {k : Key} (slot : k ∈ slots.map (·.1))
    (a : α) : (slots.map fun slot => if slot.1 = k then (k, some a) else slot).lookup k =
      some (some a) := by
  induction slots with
  | nil => cases slot
  | cons first slots ih =>
    rw [List.map_cons]
    by_cases here : first.1 = k
    · rw [if_pos here, List.lookup_cons_self]
    · rw [if_neg here, List.lookup_cons, beq_false_of_ne (Ne.symm here)]
      exact ih ((List.mem_cons.mp slot).resolve_left (Ne.symm here))

theorem lookup_set_ne {slots : List (Key × Option α)} {k x : Key} (ne : x ≠ k) (a : α) :
    (slots.map fun slot => if slot.1 = k then (k, some a) else slot).lookup x =
      slots.lookup x := by
  induction slots with
  | nil => rfl
  | cons first slots ih =>
    rw [List.map_cons, List.lookup_cons, List.lookup_cons, ih]
    by_cases here : first.1 = k
    · rw [if_pos here, here, beq_false_of_ne ne]
    · rw [if_neg here]

theorem set_ok {k : Key} (free : s.IsFree k) (a : α) :
    ∃ s', s.set k a = .ok s' ∧ s'.keys = s.keys ∧
      ∀ x, s'.get? x = if x = k then some a else s.get? x := by
  obtain ⟨slot, empty⟩ := free
  obtain ⟨held, found⟩ := Option.isSome_iff_exists.mp (lookup_isSome.mpr slot)
  have absent : held = none := by
    rw [get?, found] at empty
    exact empty
  subst absent
  refine ⟨⟨s.slots.map fun slot => if slot.1 = k then (k, some a) else slot⟩,
    by rw [set, found], ?_, fun x => ?_⟩
  · rw [keys, keys, List.map_map]
    refine List.map_congr_left fun slot _ => ?_
    by_cases here : slot.1 = k <;> simp [here]
  · by_cases same : x = k
    · rw [if_pos same, same, get?, lookup_set_self slot]
      rfl
    · rw [if_neg same, get?, get?, lookup_set_ne same]

/-- Only empty slots are written. -/
theorem set_free {k : Key} {a : α} {s' : Store α} (h : s.set k a = .ok s') : s.IsFree k := by
  unfold set at h
  split at h
  · cases h
  · cases h
  · rename_i found
    refine ⟨lookup_isSome.mp (by rw [found]; rfl), ?_⟩
    rw [get?, found]
    rfl

theorem set_keys {k : Key} {a : α} {s' : Store α} (h : s.set k a = .ok s') : s'.keys = s.keys := by
  obtain ⟨_, eq, keys, _⟩ := set_ok (set_free h) a
  rw [h, Except.ok.injEq] at eq
  exact eq ▸ keys

theorem setAll_keys (s : Store α) (pairs : List (Key × α)) : (s.setAll pairs).2.keys = s.keys := by
  induction pairs generalizing s with
  | nil => rfl
  | cons p pairs ih =>
    rw [setAll]
    split
    · rfl
    · rename_i s' first
      exact (ih s').trans (set_keys first)

theorem IsFree.of_set {k x : Key} {a : α} {s' : Store α} (free : s.IsFree x) (ne : x ≠ k)
    (keys : s'.keys = s.keys) (get : ∀ x, s'.get? x = if x = k then some a else s.get? x) :
    s'.IsFree x := by
  refine ⟨keys ▸ free.1, ?_⟩
  rw [get, if_neg ne]
  exact free.2

/-- Pairs of different keys are all written into empty slots. -/
theorem setAll_ok {pairs : List (Key × α)} (once : (pairs.map (·.1)).Nodup)
    (free : ∀ p ∈ pairs, s.IsFree p.1) :
    (s.setAll pairs).1 = .ok () ∧
      ∀ x, (s.setAll pairs).2.get? x = (pairs.lookup x).or (s.get? x) := by
  induction pairs generalizing s with
  | nil => exact ⟨rfl, fun x => rfl⟩
  | cons p pairs ih =>
    obtain ⟨k, a⟩ := p
    rw [List.map_cons, List.nodup_cons] at once
    obtain ⟨first, rest⟩ := List.forall_mem_cons.mp free
    obtain ⟨s₁, eq₁, keys₁, get₁⟩ := set_ok first a
    have rest₁ : ∀ p ∈ pairs, s₁.IsFree p.1 := by
      intro p mem
      have ne : p.1 ≠ k := by
        rintro rfl
        exact once.1 (List.mem_map.mpr ⟨p, mem, rfl⟩)
      exact (rest p mem).of_set ne keys₁ get₁
    obtain ⟨eq₂, get₂⟩ := ih once.2 rest₁
    simp only [setAll, eq₁]
    refine ⟨eq₂, fun x => ?_⟩
    rw [get₂, get₁, List.lookup_cons]
    by_cases same : x = k
    · have absent : pairs.lookup k = none := lookup_eq_none.mpr once.1
      simp [same, absent]
    · rw [beq_false_of_ne same, if_neg same]

theorem IsFree.before_set {k x : Key} {a : α} {s' : Store α} (free : s'.IsFree x)
    (h : s.set k a = .ok s') : x ≠ k ∧ s.IsFree x := by
  obtain ⟨s₁, eq, keys, get⟩ := set_ok (set_free h) a
  rw [h, Except.ok.injEq] at eq
  subst eq
  obtain ⟨slot, empty⟩ := free
  rw [get] at empty
  split at empty
  · cases empty
  · rename_i ne
    exact ⟨ne, keys ▸ slot, empty⟩

theorem setAll_free {pairs : List (Key × α)} (h : (s.setAll pairs).1 = .ok ()) :
    (pairs.map (·.1)).Nodup ∧ ∀ p ∈ pairs, s.IsFree p.1 := by
  induction pairs generalizing s with
  | nil => exact ⟨List.nodup_nil, nofun⟩
  | cons p pairs ih =>
    obtain ⟨k, a⟩ := p
    rw [setAll] at h
    split at h
    · cases h
    · rename_i s₁ first
      obtain ⟨once, free⟩ := ih h
      refine ⟨List.nodup_cons.mpr ⟨fun again => ?_, once⟩,
        List.forall_mem_cons.mpr ⟨set_free first, fun p mem => ((free p mem).before_set first).2⟩⟩
      obtain ⟨p, mem, same⟩ := List.mem_map.mp again
      exact ((free p mem).before_set first).1 same

/-- The right store is the left one with these pairs in slots that were empty. -/
structure Added (pairs : List (Key × α)) (s s' : Store α) : Prop where
  keys : s'.keys = s.keys
  free : ∀ p ∈ pairs, s.get? p.1 = none
  get : ∀ k, s'.get? k = (pairs.lookup k).or (s.get? k)

theorem Added.of_setAll {pairs : List (Key × α)} (h : (s.setAll pairs).1 = .ok ()) :
    Added pairs s (s.setAll pairs).2 := by
  obtain ⟨once, free⟩ := setAll_free h
  exact ⟨s.setAll_keys pairs, fun p mem => (free p mem).2, (setAll_ok once free).2⟩

/-- Slots of other keys stay free. -/
theorem Added.isFree {pairs : List (Key × α)} {s' : Store α} (added : Added pairs s s') {k : Key}
    (other : k ∉ pairs.map (·.1)) (free : s.IsFree k) : s'.IsFree k := by
  refine ⟨added.keys ▸ free.1, ?_⟩
  rw [added.get, lookup_eq_none.mpr other]
  exact free.2

/-- What is written stays. -/
theorem Added.keeps {pairs : List (Key × α)} {s' : Store α} (added : Added pairs s s') {k : Key}
    {a : α} (held : s.get? k = some a) : s'.get? k = some a := by
  have new : pairs.lookup k = none := by
    rw [lookup_eq_none]
    intro listed
    obtain ⟨p, mem, rfl⟩ := List.mem_map.mp listed
    rw [added.free p mem] at held
    cases held
  rw [added.get, new]
  exact held

theorem Added.found {pairs : List (Key × α)} {s' : Store α} (added : Added pairs s s') {k : Key}
    {a : α} (listed : pairs.lookup k = some a) : s.get? k = none ∧ s'.get? k = some a := by
  refine ⟨added.free (k, a) (mem_pairs_of_lookup listed), ?_⟩
  rw [added.get, listed]
  rfl

theorem get?_of_verdict? {s : Store Held} {k : Key} {v : Verdict} (h : s.verdict? k = some v) :
    s.get? k = some (.verdict v) := by
  unfold verdict? at h
  split at h
  · rename_i found
    cases h
    exact found
  · cases h

/-! ## The start of a run -/

theorem forPlan_keys (p : Plan) (k : Key) : k ∈ (forPlan p : Store α).keys ↔
    k ∈ p.graph.inputs.map (·.key) ∨ k ∈ p.graph.nodes.flatMap (·.outputs) := by
  rw [keys, forPlan, List.map_map, Function.comp_def, List.map_id', mem_distinct,
    List.mem_append]

theorem forPlan_get? (p : Plan) (k : Key) : (forPlan p : Store α).get? k = none := by
  have empty (ks : List Key) : ((ks.map fun k => (k, (none : Option α))).lookup k).join = none := by
    induction ks with
    | nil => rfl
    | cons first ks ih =>
      rw [List.map_cons, List.lookup_cons]
      split
      · rfl
      · exact ih
  exact empty _

/-- Inputs of different declared keys all fit. -/
theorem supply_ok (p : Plan) {s : Store Held} {inputs : List (Key × Value)}
    (once : (inputs.map (·.1)).Nodup) (declared : ∀ i ∈ inputs, p.graph.isFlowInput i.1 = true)
    (free : ∀ i ∈ inputs, s.IsFree i.1) :
    ∃ s', s.supply p inputs = .ok s' ∧ s'.keys = s.keys ∧
      ∀ x, s'.get? x = ((inputs.lookup x).map Held.value).or (s.get? x) := by
  induction inputs generalizing s with
  | nil => exact ⟨s, rfl, rfl, fun x => rfl⟩
  | cons i inputs ih =>
    obtain ⟨k, v⟩ := i
    rw [List.map_cons, List.nodup_cons] at once
    obtain ⟨known, declared⟩ := List.forall_mem_cons.mp declared
    obtain ⟨first, rest⟩ := List.forall_mem_cons.mp free
    obtain ⟨s₁, eq₁, keys₁, get₁⟩ := set_ok first (Held.value v)
    have rest₁ : ∀ i ∈ inputs, s₁.IsFree i.1 := by
      intro i mem
      have ne : i.1 ≠ k := by
        rintro rfl
        exact once.1 (List.mem_map.mpr ⟨i, mem, rfl⟩)
      exact (rest i mem).of_set ne keys₁ get₁
    obtain ⟨s₂, eq₂, keys₂, get₂⟩ := ih once.2 declared rest₁
    have empty : s.contains k = false := by rw [contains, first.2]; rfl
    refine ⟨s₂, ?_, keys₂.trans keys₁, fun x => ?_⟩
    · rw [supply, known, empty, eq₁]
      exact eq₂
    · rw [get₂, get₁, List.lookup_cons]
      by_cases same : x = k
      · have absent : inputs.lookup k = none := lookup_eq_none.mpr once.1
        simp [same, absent]
      · rw [beq_false_of_ne same, if_neg same]

/-- Only inputs of different declared keys are taken. -/
theorem supply_free (p : Plan) {s s' : Store Held} {inputs : List (Key × Value)}
    (h : s.supply p inputs = .ok s') : (inputs.map (·.1)).Nodup ∧
      (∀ i ∈ inputs, p.graph.isFlowInput i.1 = true) ∧ ∀ i ∈ inputs, s.IsFree i.1 := by
  induction inputs generalizing s with
  | nil => exact ⟨List.nodup_nil, nofun, nofun⟩
  | cons i inputs ih =>
    obtain ⟨k, v⟩ := i
    rw [supply] at h
    split at h
    · cases h
    · rename_i known
      split at h
      · cases h
      · split at h
        · cases h
        · rename_i s₁ first
          obtain ⟨once, declared, free⟩ := ih h
          refine ⟨List.nodup_cons.mpr ⟨fun again => ?_, once⟩,
            List.forall_mem_cons.mpr ⟨by simpa using known, declared⟩,
            List.forall_mem_cons.mpr ⟨set_free first, fun i mem =>
              ((free i mem).before_set first).2⟩⟩
          obtain ⟨i, mem, same⟩ := List.mem_map.mp again
          exact ((free i mem).before_set first).1 same

/-- What was taken is under its keys, and all else is as before. -/
theorem supply_get (p : Plan) {s s' : Store Held} {inputs : List (Key × Value)}
    (h : s.supply p inputs = .ok s') : s'.keys = s.keys ∧
      ∀ x, s'.get? x = ((inputs.lookup x).map Held.value).or (s.get? x) := by
  obtain ⟨once, declared, free⟩ := supply_free p h
  obtain ⟨s₁, eq, keys, get⟩ := supply_ok p once declared free
  rw [h, Except.ok.injEq] at eq
  subst eq
  exact ⟨keys, get⟩

theorem supplied_get (p : Plan) {s : Store Held} {inputs : List (Key × Value)}
    (h : (forPlan p).supply p inputs = .ok s) (k : Key) :
    s.get? k = (inputs.lookup k).map Held.value := by
  rw [(supply_get p h).2, forPlan_get?, Option.or_none]

theorem seeded_eq_ok_iff (p : Plan) {s : Store Held} {inputs : List (Key × Value)} :
    seeded p inputs = .ok s ↔ (forPlan p).supply p inputs = .ok s ∧
      ∀ d ∈ p.graph.inputs, (inputs.lookup d.key).isSome = true := by
  unfold seeded
  cases supplied : (forPlan p).supply p inputs with
  | error e => exact ⟨nofun, fun no => nomatch no.1⟩
  | ok s₁ =>
    have found (d : Declared) : s₁.contains d.key = (inputs.lookup d.key).isSome := by
      rw [contains, supplied_get p supplied, Option.isSome_map]
    cases missing : p.graph.inputs.find? fun d => !s₁.contains d.key with
    | some d =>
      have absent := List.find?_some missing
      rw [found] at absent
      simp only [missing]
      refine ⟨nofun, fun no => ?_⟩
      rw [no.2 d (List.mem_of_find?_eq_some missing)] at absent
      cases absent
    | none =>
      simp only [missing]
      refine ⟨fun is => ⟨is, fun d mem => ?_⟩, fun is => is.1⟩
      have there := List.find?_eq_none.mp missing d mem
      rw [found] at there
      simpa using there

/-- A run whose inputs are those that are declared, in any order, finds them in its store. -/
theorem seeded_ok (p : Plan) {inputs : List (Key × Value)}
    (declared : (inputs.map (·.1)).Perm (p.graph.inputs.map (·.key)))
    (once : (p.graph.inputs.map (·.key)).Nodup)
    (flowInputs : ∀ k, p.graph.isFlowInput k = true ↔ k ∈ p.graph.inputs.map (·.key)) :
    ∃ s, seeded p inputs = .ok s ∧ s.keys = (forPlan p : Store Held).keys ∧
      ∀ x, s.get? x = (inputs.lookup x).map Held.value := by
  have known {i : Key × Value} (mem : i ∈ inputs) : i.1 ∈ p.graph.inputs.map (·.key) :=
    declared.mem_iff.mp (List.mem_map_of_mem mem)
  obtain ⟨s, eq, keys, _⟩ := supply_ok p (declared.nodup_iff.mpr once)
    (fun i mem => (flowInputs i.1).mpr (known mem))
    (fun i mem => ⟨(forPlan_keys p i.1).mpr (.inl (known mem)), forPlan_get? p i.1⟩)
  exact ⟨s, (seeded_eq_ok_iff p).mpr ⟨eq, fun d mem =>
    lookup_isSome.mpr (declared.mem_iff.mpr (List.mem_map_of_mem mem))⟩, keys, supplied_get p eq⟩

/-- Only values for declared inputs are taken, and the slots stay as they are. -/
theorem seeded_keys (p : Plan) {inputs : List (Key × Value)} {s : Store Held}
    (h : seeded p inputs = .ok s) : s.keys = (forPlan p : Store Held).keys ∧
      ∀ i ∈ inputs, p.graph.isFlowInput i.1 = true := by
  have supplied := ((seeded_eq_ok_iff p).mp h).1
  exact ⟨(supply_get p supplied).1, (supply_free p supplied).2.1⟩

/-- A run starts with one value for each declared input and nothing else. -/
theorem seeded_get (p : Plan) {inputs : List (Key × Value)} {s : Store Held}
    (h : seeded p inputs = .ok s) : (∀ k, s.get? k = (inputs.lookup k).map Held.value) ∧
      ∀ d ∈ p.graph.inputs, (inputs.lookup d.key).isSome = true := by
  obtain ⟨supplied, all⟩ := (seeded_eq_ok_iff p).mp h
  exact ⟨supplied_get p supplied, all⟩

end Store

end KeyFlow
