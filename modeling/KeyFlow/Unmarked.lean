/-!
How many elements of a list are not marked yet. Walks that mark what they enter end because this
number falls.
-/

namespace KeyFlow

variable {α : Type} [DecidableEq α]

def unmarked (all marked : List α) : Nat := all.countP (· ∉ marked)

theorem unmarked_cons_le (all marked : List α) (x : α) :
    unmarked all (x :: marked) ≤ unmarked all marked := by
  unfold unmarked
  apply List.countP_mono_left
  intro y _ h
  simp_all

theorem unmarked_cons_lt {all marked : List α} {x : α} (mem : x ∈ all) (fresh : x ∉ marked) :
    unmarked all (x :: marked) < unmarked all marked := by
  induction all with
  | nil => cases mem
  | cons y ys ih =>
    have le := unmarked_cons_le ys marked x
    unfold unmarked at ih le ⊢
    simp only [List.countP_cons, List.mem_cons]
    rcases List.mem_cons.mp mem with rfl | later
    · simp [fresh]
      simp at le
      omega
    · have lt := ih later
      by_cases same : y = x
      · subst same
        simp [fresh]
        simp at le
        omega
      · simp [same]
        simp at lt
        omega

end KeyFlow
