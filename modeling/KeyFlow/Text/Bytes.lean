/-!
Places in a text that are counted in the bytes of its encoding. A place inside a character divides
no text.
-/

namespace KeyFlow.Text

def byteLength (cs : List Char) : Nat := cs.foldl (fun n c => n + c.utf8Size) 0

/-- The characters before and after the first so many bytes. -/
def splitBytes : Nat → List Char → Option (List Char × List Char)
  | 0, cs => some ([], cs)
  | _ + 1, [] => none
  | n + 1, c :: cs =>
    if c.utf8Size ≤ n + 1 then
      (splitBytes (n + 1 - c.utf8Size) cs).map fun (before, behind) => (c :: before, behind)
    else none

/-- The characters from the byte at `first` up to the byte at `last`. -/
def sliceBytes (cs : List Char) (first last : Nat) : Option (List Char) :=
  (splitBytes first cs).bind fun (_, rest) =>
    (splitBytes (last - first) rest).map fun (slice, _) => slice

end KeyFlow.Text
