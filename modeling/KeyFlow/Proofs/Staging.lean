import Mathlib.Data.List.Find
import Mathlib.Data.List.Perm.Basic
import KeyFlow.Proofs.Lookup
import KeyFlow.Staging

/-!
Taking out what was put aside. The place of each pair that is taken out is filled with the last one,
so that what is left gets into another order; but every key was put aside once, and so the outputs
are those that a look-up for each of them finds.
-/

namespace KeyFlow

theorem swapRemove_perm {α : Type} {xs : List α} {i : Nat} (inRange : i < xs.length) :
    (swapRemove xs i).Perm (xs.eraseIdx i) := by
  rcases xs.eq_nil_or_concat' with rfl | ⟨init, last, rfl⟩
  · cases inRange
  have ends : ((init ++ [last]).set i last).dropLast ++ [last] = (init ++ [last]).set i last := by
    by_cases before : i < init.length
    · rw [List.set_append_left _ _ before, List.dropLast_concat]
    · obtain rfl : i = init.length := by
        rw [List.length_append, List.length_singleton] at inRange
        omega
      rw [List.set_append_right _ _ (Nat.le_refl _), Nat.sub_self, List.set_cons_zero,
        List.dropLast_concat]
  rw [swapRemove, List.getLast?_concat]
  refine List.Perm.cons_inv ((List.perm_append_singleton last _).symm.trans ?_)
  rw [ends]
  exact List.set_perm_cons_eraseIdx inRange last

theorem lookup_perm {α β : Type} [DecidableEq α] {xs ys : List (α × β)} (perm : xs.Perm ys)
    (once : (xs.map (·.1)).Nodup) (a : α) : xs.lookup a = ys.lookup a := by
  refine Option.ext fun b => ?_
  rw [lookup_iff_mem once, lookup_iff_mem ((perm.map _).nodup_iff.mp once), perm.mem_iff]

namespace Staging

variable {staged : List (Key × Value)} {k : Key}

/-- What is found first under a key is what a look-up finds. -/
theorem find?_eq_lookup (staged : List (Key × Value)) (k : Key) :
    staged.find? (·.1 == k) = (staged.lookup k).map (k, ·) := by
  induction staged with
  | nil => rfl
  | cons p staged ih =>
    rw [List.find?_cons, List.lookup_cons, ih]
    by_cases same : p.1 = k
    · subst same
      simp
    · rw [beq_false_of_ne same, beq_false_of_ne (Ne.symm same)]

/-- A key that was taken out is gone, and all others are found as before. -/
theorem lookup_rest {pair : Key × Value} (once : (staged.map (·.1)).Nodup)
    (found : staged.find? (·.1 == k) = some pair) :
    ((swapRemove staged (staged.findIdx (·.1 == k))).map (·.1)).Nodup ∧
      ∀ x, x ≠ k → (swapRemove staged (staged.findIdx (·.1 == k))).lookup x = staged.lookup x := by
  have listed : ∃ p ∈ staged, (p.1 == k) = true :=
    List.find?_isSome.mp (by rw [found]; rfl)
  have inRange := List.findIdx_lt_length_of_exists listed
  generalize placed : staged.findIdx (·.1 == k) = i at inRange
  have key : staged[i].1 = k := by
    subst placed
    simpa using List.findIdx_getElem (w := inRange)
  have perm := swapRemove_perm inRange
  have all := List.getElem_cons_eraseIdx_perm inRange
  have once' := ((all.map (·.1)).nodup_iff.mpr once)
  rw [List.map_cons, List.nodup_cons] at once'
  have rest := (perm.map (·.1)).nodup_iff.mpr once'.2
  refine ⟨rest, fun x other => ?_⟩
  rw [lookup_perm perm rest, ← lookup_perm all ((all.map (·.1)).nodup_iff.mpr once),
    List.lookup_cons, key, beq_false_of_ne other]

/-- The first of these keys under which nothing was put aside. -/
def missing? (staged : List (Key × Value)) (ks : List Key) : Option Key :=
  ks.find? fun k => (staged.lookup k).isNone

/-- One pair for each of these keys. -/
def pairs (staged : List (Key × Value)) (ks : List Key) : List (Key × Value) :=
  ks.filterMap fun k => (staged.lookup k).map (k, ·)

/-- Keys that are asked for once each are taken out as they are looked up. -/
theorem draw_eq {ks : List Key} (once : ks.Nodup) (unique : (staged.map (·.1)).Nodup) :
    draw staged ks = (missing? staged ks).elim (.ok (pairs staged ks)) .error := by
  induction ks generalizing staged with
  | nil => rfl
  | cons k ks ih =>
    obtain ⟨new, once⟩ := List.nodup_cons.mp once
    cases found : staged.find? (·.1 == k) with
    | none =>
      have unstaged : staged.lookup k = none := by
        rwa [find?_eq_lookup, Option.map_eq_none_iff] at found
      have first : missing? staged (k :: ks) = some k :=
        List.find?_cons_of_pos (by rw [unstaged]; rfl)
      rw [draw, found, first]
      rfl
    | some pair =>
      obtain ⟨unique', same⟩ := lookup_rest unique found
      have others {α : Type} (f : Key → Option Value → α) :
          ∀ x ∈ ks, f x ((swapRemove staged (staged.findIdx (·.1 == k))).lookup x) =
            f x (staged.lookup x) := fun x mem => by
        rw [same x fun is => new (is ▸ mem)]
      have missing : missing? (swapRemove staged (staged.findIdx (·.1 == k))) ks =
          missing? staged ks := List.find?_congr (others fun _ v => v.isNone)
      have left : pairs (swapRemove staged (staged.findIdx (·.1 == k))) ks = pairs staged ks :=
        List.filterMap_congr (others fun k v => v.map (k, ·))
      obtain ⟨v, there, rfl⟩ := Option.map_eq_some_iff.mp (find?_eq_lookup staged k ▸ found)
      have later : missing? staged (k :: ks) = missing? staged ks :=
        List.find?_cons_of_neg (by rw [there]; nofun)
      have first : pairs staged (k :: ks) = (k, v) :: pairs staged ks :=
        List.filterMap_cons_some (by rw [there]; rfl)
      rw [draw, found, later, first]
      simp only [ih once unique', missing, left]
      cases missing? staged ks <;> rfl

/-- What is taken out are the outputs, whatever was put aside. -/
theorem draw_keys {ks : List Key} {taken : List (Key × Value)}
    (drawn : draw staged ks = .ok taken) : taken.map (·.1) = ks := by
  induction ks generalizing staged taken with
  | nil =>
    cases drawn
    rfl
  | cons k ks ih =>
    rw [draw] at drawn
    split at drawn
    · cases drawn
    · rename_i pair found
      have key : pair.1 = k := by simpa using List.find?_some found
      cases left : draw (swapRemove staged (staged.findIdx (·.1 == k))) ks with
      | error k' =>
        rw [left] at drawn
        cases drawn
      | ok rest =>
        rw [left] at drawn
        cases drawn
        rw [List.map_cons, ih left, key]

/-- Each key is put aside once. -/
theorem provide_unique {s s' : Staging} {v : Value} (unique : (s.staged.map (·.1)).Nodup)
    (provided : s.provide k v = some s') : (s'.staged.map (·.1)).Nodup := by
  unfold provide at provided
  split at provided
  · cases provided
    rw [List.map_append, List.map_singleton, List.nodup_append_comm, List.singleton_append,
      List.nodup_cons]
    refine ⟨fun again => ?_, unique.sublist (List.filter_sublist.map _)⟩
    obtain ⟨p, mem, same⟩ := List.mem_map.mp again
    simpa [same] using (List.mem_filter.mp mem).2
  · cases provided

end Staging

end KeyFlow
