/-!
Places in a source text, where declarations and problems stand.
-/

namespace KeyFlow

structure Location where
  file : String
  line : Nat
  column : Nat
  deriving DecidableEq, Repr

def Location.text (l : Location) : String := s!"{l.file}:{l.line}:{l.column}"

end KeyFlow
