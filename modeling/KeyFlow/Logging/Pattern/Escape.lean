import KeyFlow.Text.Blank

/-!
Single characters of patterns and the escapes for them. Patterns know nothing of the kinds and the
cases of characters beyond those of one byte: what would ask for them cannot be read.
-/

namespace KeyFlow.Pattern

/-- What flags in a pattern switch on and off, as far as it decides what can be read. -/
structure Mode where
  /-- Blanks and comments mean nothing. -/
  verbose : Bool := false
  /-- Characters of all scripts are meant, and not only those of one byte. -/
  wide : Bool := true
  /-- Letters stand for both of their cases. -/
  caseless : Bool := false
  deriving DecidableEq, Repr

namespace Mode

/-- A character may stand for itself; in wide modes its other case would not be known. -/
def admits (m : Mode) : Bool := !(m.wide && m.caseless)

/-- A character may stand for itself in a class. -/
def admitsMember (m : Mode) (c : Char) : Bool := if m.wide then !m.caseless else c.toNat < 128

end Mode

/-- Skips blanks, and comments from a hash to the end of its line. -/
def skipIdle : (inComment : Bool) → List Char → List Char
  | _, [] => []
  | true, c :: cs => skipIdle (c != '\n') cs
  | false, c :: cs =>
    if c == '#' then skipIdle true cs
    else if Text.isBlank c then skipIdle false cs
    else c :: cs

def skip (m : Mode) (cs : List Char) : List Char := if m.verbose then skipIdle false cs else cs

/-- Looks at the next character that is no blank, or at the first one if all are. One hash is not
looked at. -/
def peek (m : Mode) (cs : List Char) : Option Char :=
  let next (cs : List Char) := (cs.dropWhile Text.isBlank)
  if !m.verbose then cs.head?
  else match next cs with
    | '#' :: rest => (next rest).head?.or cs.head?
    | rest => rest.head?.or cs.head?

/-- What an escape or a single character stands for. -/
inductive Atom where
  | character (c : Char)
  /-- One character of a class. -/
  | oneOf
  /-- A place between characters. -/
  | place
  deriving DecidableEq, Repr

def isOperator (c : Char) : Bool := c ∈ "\\.+*?()|[]\x7b\x7d^$#&-~".toList

/-- Signs, which a backslash leaves as they are. Two are kept for other uses. -/
def isEscapable (c : Char) : Bool :=
  isOperator c || (c.toNat < 128 && !c.isAlphanum && c != '<' && c != '>')

/-- Letters that stand for control characters. -/
def control? (c : Char) : Option Char :=
  match c with
  | 'a' => some '\x07'
  | 'f' => some '\x0c'
  | 'n' => some '\n'
  | 'r' => some '\r'
  | 't' => some '\t'
  | 'v' => some '\x0b'
  | _ => none

def hexValue? (c : Char) : Option Nat :=
  if c.isDigit then some (c.toNat - '0'.toNat)
  else if 'a' ≤ c.toLower && c.toLower ≤ 'f' then some (c.toLower.toNat - 'a'.toNat + 10)
  else none

/-- Reads so many more digits of a number. -/
def hexDigits (m : Mode) : (count value : Nat) → List Char → Option (Nat × List Char)
  | 0, value, cs => some (value, cs)
  | count + 1, value, cs =>
    match skip m cs with
    | [] => none
    | c :: cs => (hexValue? c).bind fun d => hexDigits m count (16 * value + d) cs

/-- A character by its number in so many digits. -/
def byNumber (m : Mode) (digits : Nat) (cs : List Char) : Option (Atom × List Char) :=
  (hexDigits m digits 0 cs).bind fun (n, rest) =>
    if n.isValidChar then some (.character (Char.ofNat n), rest) else none

/-- Reads what follows a backslash. -/
def escape (m : Mode) : List Char → Option (Atom × List Char)
  | [] => none
  | c :: cs =>
    if c == 'x' then
      (byNumber m 2 cs).filter fun (a, _) =>
        match a with
        | .character c => m.wide || c.toNat < 128
        | _ => true
    else if c == 'u' then byNumber m 4 cs
    else if c == 'U' then byNumber m 8 cs
    else if c ∈ "dsw".toList then if m.wide then none else some (.oneOf, cs)
    else if c ∈ "bB<>".toList then if m.wide then none else some (.place, cs)
    else if c == 'A' || c == 'z' then some (.place, cs)
    else match control? c with
      | some sign => some (.character sign, cs)
      | none => if isEscapable c then some (.character c, cs) else none

end KeyFlow.Pattern
