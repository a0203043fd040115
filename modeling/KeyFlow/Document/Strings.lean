/-!
Values and keys written in quotes. Between double quotes a backslash begins an escape, between
single quotes every character stands for itself, and quotes written three times enclose text of
several lines, which may end in up to two quotes of its own.
-/

namespace KeyFlow.Document.Strings

/-- Characters that may stand for themselves in a line. -/
def isPlain (c : Char) : Bool := c == '\t' || (' ' ≤ c && c != '\x7f')

/-- Where a reader is in a text with escapes. -/
inductive Mode where
  | plain
  | escaped
  /-- In the code of a character, with digits still to come. -/
  | code (left value : Nat)

/-- What follows a backslash: the name of a character, or a sign for digits. -/
inductive Escape where
  | char (c : Char)
  | code (digits : Nat)

def escape? : Char → Option Escape
  | 'b' => some (.char '\x08')
  | 't' => some (.char '\t')
  | 'n' => some (.char '\n')
  | 'f' => some (.char '\x0c')
  | 'r' => some (.char '\r')
  | 'e' => some (.char '\x1b')
  | '"' => some (.char '"')
  | '\\' => some (.char '\\')
  | 'x' => some (.code 2)
  | 'u' => some (.code 4)
  | 'U' => some (.code 8)
  | _ => none

def hexValue? (c : Char) : Option Nat :=
  if c.isDigit then some (c.toNat - '0'.toNat)
  else if 'a' ≤ c && c ≤ 'f' then some (c.toNat - 'a'.toNat + 10)
  else if 'A' ≤ c && c ≤ 'F' then some (c.toNat - 'A'.toNat + 10)
  else none

def charOfCode? (n : Nat) : Option Char :=
  if h : n.isValidChar then some (Char.ofNatAux n h) else none

/-- Goes on after one more character inside an escape: the character that it completes, if any, and
where the reader is then. -/
def inEscape (m : Mode) (c : Char) : Option (Option Char × Mode) :=
  match m with
  | .plain => some (some c, .plain)
  | .escaped =>
    match escape? c with
    | some (.char d) => some (some d, .plain)
    | some (.code digits) => some (none, .code digits 0)
    | none => none
  | .code left value =>
    match hexValue? c with
    | none => none
    | some d =>
      if left ≤ 1 then (charOfCode? (16 * value + d)).map fun c => (some c, .plain)
      else some (none, .code (left - 1) (16 * value + d))

/-- The text read so far, and what is left after it. -/
def close (reversed : List Char) (rest : List Char) : Option (String × List Char) :=
  some (String.ofList reversed.reverse, rest)

/-- Reads the rest of a line with escapes up to its closing quote. -/
def escapedLine : Mode → List Char → List Char → Option (String × List Char)
  | _, _, [] => none
  | .plain, read, '"' :: rest => close read rest
  | .plain, read, '\\' :: rest => escapedLine .escaped read rest
  | .plain, read, c :: rest => if isPlain c then escapedLine .plain (c :: read) rest else none
  | m, read, c :: rest =>
    match inEscape m c with
    | none => none
    | some (done, m) => escapedLine m (done.toList ++ read) rest

def plainLine : List Char → List Char → Option (String × List Char)
  | _, [] => none
  | read, '\'' :: rest => close read rest
  | read, c :: rest => if isPlain c then plainLine (c :: read) rest else none

/-- A line break right after the opening quotes is no part of the text. -/
def dropFirstBreak : List Char → List Char
  | '\n' :: rest => rest
  | '\r' :: '\n' :: rest => rest
  | cs => cs

def isBlank (c : Char) : Bool := c == ' ' || c == '\t'

def isGap (c : Char) : Bool := isBlank c || c == '\n' || c == '\r'

/-- Whether a line ends here but for blanks. -/
def endsLine (cs : List Char) : Bool :=
  match cs.dropWhile isBlank with
  | '\n' :: _ => true
  | '\r' :: '\n' :: _ => true
  | _ => false

theorem length_dropWhile_le (p : Char → Bool) (cs : List Char) :
    (cs.dropWhile p).length ≤ cs.length :=
  (List.dropWhile_suffix p).length_le

/-- Reads the rest of several lines with escapes. A backslash at the end of a line joins it with
what comes after the gap. -/
def escapedLines (m : Mode) (read : List Char) (cs : List Char) : Option (String × List Char) :=
  match m, cs with
  | _, [] => none
  | .plain, '"' :: '"' :: '"' :: '"' :: '"' :: rest => close ('"' :: '"' :: read) rest
  | .plain, '"' :: '"' :: '"' :: '"' :: rest => close ('"' :: read) rest
  | .plain, '"' :: '"' :: '"' :: rest => close read rest
  | .plain, '\\' :: rest =>
    if endsLine rest then escapedLines .plain read (rest.dropWhile isGap)
    else escapedLines .escaped read rest
  | .plain, '\r' :: '\n' :: rest => escapedLines .plain ('\n' :: '\r' :: read) rest
  | .plain, c :: rest =>
    if isPlain c || c == '\n' then escapedLines .plain (c :: read) rest else none
  | m, c :: rest =>
    match inEscape m c with
    | none => none
    | some (done, m) => escapedLines m (done.toList ++ read) rest
termination_by cs.length
decreasing_by
  · exact Nat.lt_succ_of_le (length_dropWhile_le isGap rest)
  all_goals (simp only [List.length_cons]; omega)

def plainLines : List Char → List Char → Option (String × List Char)
  | _, [] => none
  | read, '\'' :: '\'' :: '\'' :: '\'' :: '\'' :: rest => close ('\'' :: '\'' :: read) rest
  | read, '\'' :: '\'' :: '\'' :: '\'' :: rest => close ('\'' :: read) rest
  | read, '\'' :: '\'' :: '\'' :: rest => close read rest
  | read, '\r' :: '\n' :: rest => plainLines ('\n' :: '\r' :: read) rest
  | read, c :: rest => if isPlain c || c == '\n' then plainLines (c :: read) rest else none

/-- Reads a text of one line, if one begins here. -/
def line? : List Char → Option (Option (String × List Char))
  | '"' :: rest => some (escapedLine .plain [] rest)
  | '\'' :: rest => some (plainLine [] rest)
  | _ => none

/-- Reads a text of one line or of several, if one begins here. -/
def text? : List Char → Option (Option (String × List Char))
  | '"' :: '"' :: '"' :: rest => some (escapedLines .plain [] (dropFirstBreak rest))
  | '\'' :: '\'' :: '\'' :: rest => some (plainLines [] (dropFirstBreak rest))
  | cs => line? cs

end KeyFlow.Document.Strings
