import KeyFlow.Value

/-!
Staged outputs of a task. While its body runs, a task puts the values of its outputs aside; they
are taken together once the body has returned.
-/

namespace KeyFlow

/-- Removes the element at a place; the last one moves there. -/
def swapRemove {α : Type} (xs : List α) (i : Nat) : List α :=
  match xs.getLast? with
  | none => []
  | some last => (xs.set i last).dropLast

/-- What a task put aside so far, each key once. -/
structure Staging where
  outputs : List Key
  staged : List (Key × Value) := []

namespace Staging

/-- Puts a value aside for a declared output, in the place of an earlier one for it. -/
def provide (s : Staging) (k : Key) (v : Value) : Option Staging :=
  if k ∈ s.outputs then some { s with staged := s.staged.filter (·.1 != k) ++ [(k, v)] }
  else none

/-- Takes the pair of each key out of those put aside, up to the first key that has none. -/
def draw : List (Key × Value) → List Key → Except Key (List (Key × Value))
  | _, [] => .ok []
  | staged, k :: ks =>
    match staged.find? (·.1 == k) with
    | none => .error k
    | some pair => (draw (swapRemove staged (staged.findIdx (·.1 == k))) ks).map (pair :: ·)

/-- One pair for each declared output, in the order of declaration, or the first output that is
missing. -/
def take (s : Staging) : Except Key (List (Key × Value)) := draw s.staged s.outputs

end Staging

end KeyFlow
