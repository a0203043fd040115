import KeyFlow.Logging.Pattern.Class
import KeyFlow.Text.Alphanumeric

/-!
Patterns for the values of fields: regular expressions. No record is compared with one here; what
matters is whether a pattern can be read. It stands in braces, so no brace is closed inside it.
-/

namespace KeyFlow.Pattern

/-! ## Groups -/

/-- Reads flags up to the sign that ends them; a hyphen switches off what follows it. -/
def flags : (on : Bool) → (seen : List Char) → Mode → List Char → Option (Mode × Char × List Char)
  | _, _, _, [] => none
  | on, seen, m, c :: cs =>
    if c == ':' || c == ')' then
      if seen.head? == some '-' || (c == ')' && seen.isEmpty) then none else some (m, c, cs)
    else if seen.contains c || !"-imsUuRx".toList.contains c then none
    else
      let m := match c with
        | 'x' => { m with verbose := on }
        | 'u' => { m with wide := on }
        | 'i' => { m with caseless := on }
        | _ => m
      flags (on && c != '-') (c :: seen) m cs

def isNamePart (c : Char) : Bool := Text.isAlphanumeric c || c ∈ "_.[]".toList

/-- Reads the name of a group up to its end. -/
def groupName (cs : List Char) : Option (String × List Char) :=
  let name := cs.takeWhile isNamePart
  match name, cs.drop name.length with
  | first :: _, '>' :: rest =>
    if first == '_' || Text.isAlphabetic first then some (String.ofList name, rest) else none
  | _, _ => none

/-- What stands around a group. -/
structure Surroundings where
  mode : Mode
  items : List Nat
  branches : List Nat

/-- What is known in the middle of a pattern. -/
structure State where
  mode : Mode := {}
  names : List String := []
  /-- Heights of the items of this branch, the last one first. -/
  items : List Nat := []
  /-- The last item can be repeated. -/
  repeatable : Bool := false
  /-- Heights of the branches before this one. -/
  branches : List Nat := []
  around : List Surroundings := []

namespace State

def add (s : State) (height : Nat) : State :=
  { s with items := height :: s.items, repeatable := true }

def height (s : State) : Nat := joined (joined s.items :: s.branches)

/-- Begins another branch. -/
def branch (s : State) : State :=
  { s with items := [], repeatable := false, branches := joined s.items :: s.branches }

/-- Begins a group in which this mode holds. -/
def enter (s : State) (mode : Mode) : State :=
  { mode, names := s.names, around := ⟨s.mode, s.items, s.branches⟩ :: s.around }

/-- Ends a group. -/
def leave (s : State) : Option State :=
  match s.around with
  | [] => none
  | ⟨mode, items, branches⟩ :: around =>
    some { mode, names := s.names, items := (s.height + 1) :: items, repeatable := true,
           branches, around }

/-- Repeats the last item. -/
def repeated (s : State) : Option State :=
  match s.items with
  | h :: items => if s.repeatable then some { s with items := (h + 1) :: items } else none
  | [] => none

end State

/-- Reads what follows the bracket of a group. -/
def group (s : State) (cs : List Char) : Option (State × List Char) :=
  let named (cs : List Char) := (groupName cs).bind fun (name, rest) =>
    if name ∈ s.names then none
    else some ({ s.enter s.mode with names := name :: s.names }, rest)
  match skip s.mode cs with
  | '?' :: 'P' :: '<' :: cs => named cs
  | '?' :: '<' :: cs => named cs
  | '?' :: cs =>
    (flags true [] s.mode cs).map fun (mode, last, rest) =>
      if last == ')' then ({ s.add 0 with mode, repeatable := false }, rest)
      else (s.enter mode, rest)
  | cs => some (s.enter s.mode, cs)

/-! ## Patterns -/

/-- Takes one step through a pattern. -/
def step (s : State) : List Char → Option (State × List Char)
  | [] => none
  | c :: cs =>
    match c with
    | '(' => group s cs
    | ')' => s.leave.map fun s => (s, cs)
    | '|' => some (s.branch, cs)
    | '[' => (bracketed s.mode cs).map fun (height, rest) => (s.add height, rest)
    | '?' | '*' | '+' =>
      s.repeated.map fun s => (s, if cs.head? == some '?' then cs.drop 1 else cs)
    | '\x7b' => none
    | '\\' =>
      (escape s.mode cs).bind fun (a, rest) =>
        match a with
        | .character _ => if s.mode.admits then some (s.add 0, rest) else none
        | _ => some (s.add 0, rest)
    | '.' => if s.mode.wide then some (s.add 0, cs) else none
    | '^' | '$' => some (s.add 0, cs)
    | _ => if s.mode.admits then some (s.add 0, cs) else none

/-- Parts of patterns are nested at most this far. -/
def deepest : Nat := 250

def readsFrom : (bound : Nat) → State → List Char → Bool
  | 0, _, _ => false
  | bound + 1, s, cs =>
    match skip s.mode cs with
    | [] => s.around.isEmpty && s.height ≤ deepest
    | cs =>
      match step s cs with
      | some (s, rest) => readsFrom bound s rest
      | none => false

/-! ## Values -/

/-- The digits after an `e` in either case, and a sign between them. -/
def isExponent : List Char → Bool
  | e :: '+' :: digits | e :: '-' :: digits | e :: digits =>
    e.toLower == 'e' && !digits.isEmpty && digits.all Char.isDigit
  | [] => false

/-- Digits with a fraction or an exponent, or the name of what has no digits. -/
def isUnsignedNumber (cs : List Char) : Bool :=
  let whole := cs.takeWhile Char.isDigit
  let rest := cs.drop whole.length
  let (fraction, rest) := match rest with
    | '.' :: rest => (rest.takeWhile Char.isDigit, rest.dropWhile Char.isDigit)
    | rest => ([], rest)
  String.ofList (cs.map Char.toLower) ∈ ["inf", "infinity", "nan"] ||
    ((!whole.isEmpty || !fraction.isEmpty) && (rest.isEmpty || isExponent rest))

/-- A value that can be read: a pattern, or a number, whose sign would repeat nothing in a
pattern. -/
def isReadable (cs : List Char) : Bool :=
  readsFrom (cs.length + 1) {} cs ||
    match cs with
    | '+' :: cs => isUnsignedNumber cs
    | _ => false

end KeyFlow.Pattern
