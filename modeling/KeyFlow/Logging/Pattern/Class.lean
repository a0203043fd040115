import KeyFlow.Logging.Pattern.Escape

/-!
Classes of characters in patterns, from bracket to bracket. Of a class its height is told: how far
classes and operators are nested in it.
-/

namespace KeyFlow.Pattern

/-- The height of what stands side by side: one more than the parts, unless there is only one. -/
def joined : List Nat → Nat
  | [] => 0
  | [h] => h
  | hs => hs.foldl max 0 + 1

/-! ## Members -/

/-- Reads a character, or an escape, inside a class. -/
def member (m : Mode) (cs : List Char) : Option (Atom × List Char) :=
  let read := match cs with
    | [] => none
    | '\\' :: cs => escape m cs
    | c :: cs => some (.character c, cs)
  read.filter fun (a, _) =>
    match a with
    | .character c => m.admitsMember c
    | .oneOf => true
    | .place => false

/-- A hyphen begins the second half of a range unless an end or another hyphen follows it. -/
def rangeGoesOn (m : Mode) : List Char → Bool
  | '-' :: cs => peek m cs != some ']' && peek m cs != some '-'
  | _ => false

/-- Reads one member of a class, or a range of characters. -/
def span (m : Mode) (cs : List Char) : Option (List Char) :=
  (member m cs).bind fun (first, rest) =>
    let rest := skip m rest
    if rangeGoesOn m rest then
      match first, member m (skip m (rest.drop 1)) with
      | .character a, some (.character b, rest) => if a ≤ b then some rest else none
      | _, _ => none
    else some rest

def setNames : List String :=
  ["alnum", "alpha", "ascii", "blank", "cntrl", "digit", "graph", "lower", "print", "punct",
   "space", "upper", "word", "xdigit"]

/-- Reads a set of characters by its name, from behind its bracket, and whether it is negated. -/
def namedSet : List Char → Option (Bool × List Char)
  | ':' :: cs =>
    let negated := cs.head? == some '^'
    let cs := if negated then cs.drop 1 else cs
    let name := cs.takeWhile (· != ':')
    match cs.drop name.length with
    | ':' :: ']' :: rest =>
      if String.ofList name ∈ setNames then some (negated, rest) else none
    | _ => none
  | _ => none

/-- Modes of one byte know no negation, as it would hold more than one byte. -/
def admitsSet (m : Mode) (negated : Bool) : Bool := if m.wide then !m.caseless else !negated

/-! ## Brackets -/

/-- Skips the sign of negation behind an opening bracket. -/
def opened (m : Mode) (cs : List Char) : Option (List Char) :=
  match skip m cs with
  | '^' :: rest => if m.wide then some rest else none
  | cs => some cs

/-- A class of which a part has been read. -/
structure OpenClass where
  /-- Heights of the members since the last operator. -/
  members : List Nat := []
  /-- Height of what stands before the last operator. -/
  left : Option Nat := none

namespace OpenClass

def add (c : OpenClass) (height : Nat) : OpenClass := { c with members := height :: c.members }

def height (c : OpenClass) : Nat :=
  match c.left with
  | none => joined c.members
  | some left => max left (joined c.members) + 1

end OpenClass

/-- Operators on classes are two equal signs. -/
def beginsOperator (c : Char) (cs : List Char) : Bool :=
  (c == '&' || c == '-' || c == '~') && cs.head? == some c

/-- Reads a class to its end; other classes may stand around it. At its beginning hyphens stand for
themselves, and so does a bracket if it comes first. -/
def classRest (m : Mode) : (bound : Nat) → (beginning : Bool) → OpenClass → List OpenClass →
    List Char → Option (Nat × List Char)
  | 0, _, _, _, _ => none
  | bound + 1, beginning, inner, around, cs =>
    match skip m cs with
    | [] => none
    | c :: cs =>
      if beginning && (c == '-' || (c == ']' && inner.members.isEmpty)) then
        if m.admitsMember c then classRest m bound (c == '-') (inner.add 0) around cs else none
      else if c == '[' then
        match namedSet cs with
        | some (negated, rest) =>
          if admitsSet m negated then classRest m bound false (inner.add 0) around rest else none
        | none => (opened m cs).bind (classRest m bound true {} (inner :: around))
      else if c == ']' then
        match around with
        | [] => some (inner.height + 1, cs)
        | outer :: around => classRest m bound false (outer.add (inner.height + 1)) around cs
      else if beginsOperator c cs then
        classRest m bound false { left := some inner.height } around (cs.drop 1)
      else (span m (c :: cs)).bind (classRest m bound false (inner.add 0) around)

/-- Reads a class from behind its bracket on: its height, and what follows it. -/
def bracketed (m : Mode) (cs : List Char) : Option (Nat × List Char) :=
  (opened m cs).bind (classRest m (cs.length + 1) true {} [])

end KeyFlow.Pattern
