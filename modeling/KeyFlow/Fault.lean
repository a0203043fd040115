/-!
Faults are the steps that have no meaning: a look-up beyond the end of a table, a count taken below
zero and a cut through a character. An operation that meets one ends there.
-/

namespace KeyFlow

inductive Fault where
  | missingNode (id : Nat)
  | missingJob (index : Nat)
  | countBelowZero
  | insideCharacter
  deriving DecidableEq, Repr

end KeyFlow
