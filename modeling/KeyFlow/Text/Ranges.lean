/-!
Sets of characters as ranges of their numbers.
-/

namespace KeyFlow.Text

def inRanges (ranges : List (Nat × Nat)) (c : Char) : Bool :=
  ranges.any fun (first, last) => first ≤ c.toNat && c.toNat ≤ last

end KeyFlow.Text
