import Mathlib.Data.List.Nodup

/-!
Look-ups in a list of pairs whose keys are listed once each.
-/

namespace KeyFlow

variable {α β : Type} [DecidableEq α]

theorem lookup_eq_none {pairs : List (α × β)} {a : α} :
    pairs.lookup a = none ↔ a ∉ pairs.map (·.1) := by
  rw [List.lookup_eq_none_iff, List.mem_map]
  constructor
  · rintro h ⟨p, mem, rfl⟩
    simpa using h p mem
  · intro h p mem
    simpa using fun same => h ⟨p, mem, Eq.symm same⟩

theorem lookup_isSome {pairs : List (α × β)} {a : α} :
    (pairs.lookup a).isSome = true ↔ a ∈ pairs.map (·.1) := by
  rw [← not_iff_not, ← lookup_eq_none, Bool.not_eq_true, Option.isSome_eq_false_iff,
    Option.isNone_iff_eq_none]

theorem mem_pairs_of_lookup {pairs : List (α × β)} {a : α} {b : β}
    (h : pairs.lookup a = some b) : (a, b) ∈ pairs := by
  obtain ⟨before, after, rfl, _⟩ := List.lookup_eq_some_iff.mp h
  exact List.mem_append_right _ (List.mem_cons_self ..)

theorem lookup_of_mem {pairs : List (α × β)} (once : (pairs.map (·.1)).Nodup) {a : α} {b : β}
    (mem : (a, b) ∈ pairs) : pairs.lookup a = some b := by
  induction pairs with
  | nil => cases mem
  | cons p pairs ih =>
    rw [List.map_cons, List.nodup_cons] at once
    rcases List.mem_cons.mp mem with rfl | later
    · exact List.lookup_cons_self
    · have ne : a ≠ p.1 := fun same => once.1 (same ▸ List.mem_map_of_mem later)
      rw [List.lookup_cons, beq_false_of_ne ne]
      exact ih once.2 later

theorem lookup_iff_mem {pairs : List (α × β)} (once : (pairs.map (·.1)).Nodup) {a : α} {b : β} :
    pairs.lookup a = some b ↔ (a, b) ∈ pairs :=
  ⟨mem_pairs_of_lookup, lookup_of_mem once⟩

theorem lookup_const (as : List α) (a : α) (b : β) :
    (as.map (·, b)).lookup a = if a ∈ as then some b else none := by
  induction as with
  | nil => rfl
  | cons a' as ih =>
    rw [List.map_cons, List.lookup_cons, ih]
    by_cases same : a = a'
    · simp [same]
    · simp [beq_false_of_ne same, same]

theorem lookup_map {γ : Type} (f : β → γ) (pairs : List (α × β)) (a : α) :
    (pairs.map fun p => (p.1, f p.2)).lookup a = (pairs.lookup a).map f := by
  induction pairs with
  | nil => rfl
  | cons p pairs ih =>
    rw [List.map_cons, List.lookup_cons, List.lookup_cons, ih]
    cases a == p.1 <;> rfl

end KeyFlow
