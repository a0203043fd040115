import KeyFlow.Document.Value

/-!
Values written without quotes: truth values, whole numbers, numbers with a fraction or an exponent,
dates and times. A number that is too large to be held is no value.
-/

namespace KeyFlow.Document.Scalar

/-- Characters of which such values are made. -/
def isPart (c : Char) : Bool := c.isAlphanum || c ∈ ['+', '-', '_', '.', ':']

/-- Takes the underscores out of a run of digits; each stands between two digits. -/
def ungroup (isDigit : Char → Bool) : List Char → Option (List Char)
  | [] => none
  | [c] => if isDigit c then some [c] else none
  | c :: '_' :: rest => if isDigit c then (ungroup isDigit rest).map (c :: ·) else none
  | c :: rest => if isDigit c then (ungroup isDigit rest).map (c :: ·) else none

def digitValue (c : Char) : Nat :=
  if c.isDigit then c.toNat - '0'.toNat else c.toLower.toNat - 'a'.toNat + 10

def valueIn (base : Nat) (digits : List Char) : Nat :=
  digits.foldl (fun n c => base * n + digitValue c) 0

def isDigitIn (base : Nat) (c : Char) : Bool :=
  (c.isDigit || 'a' ≤ c.toLower && c.toLower ≤ 'f') && digitValue c < base

/-- A whole number without a sign; no zero stands in front of another digit. -/
def plainDigits (cs : List Char) : Option (List Char) :=
  match ungroup Char.isDigit cs with
  | some ('0' :: _ :: _) => none
  | digits => digits

/-- The sign, and what follows it. -/
def signed : List Char → Bool × List Char
  | '+' :: cs => (false, cs)
  | '-' :: cs => (true, cs)
  | cs => (false, cs)

def negateIf (negative : Bool) (n : Nat) : Int := if negative then -n else n

/-- Integers are held in 128 bits, of whatever sign. -/
def held : Int → Option Value
  | .ofNat n => if n < 1 <<< 128 then some (.integer n) else none
  | .negSucc n => if n < 1 <<< 127 then some (.integer (.negSucc n)) else none

def integer? (cs : List Char) : Option Value :=
  let inBase (base : Nat) (cs : List Char) :=
    (ungroup (isDigitIn base) cs).bind fun digits => held (valueIn base digits)
  match cs with
  | '0' :: 'x' :: rest => inBase 16 rest
  | '0' :: 'o' :: rest => inBase 8 rest
  | '0' :: 'b' :: rest => inBase 2 rest
  | cs =>
    let (negative, rest) := signed cs
    (plainDigits rest).bind fun digits => held (negateIf negative (valueIn 10 digits))

/-- From here on a number is nearer to infinity than to the largest one of 64 bits. -/
def tooLarge : Nat := 1 <<< 1024 - 1 <<< 970

/-- The number `digits · 10 ^ exponent` is below `tooLarge`. -/
def isFinite (digits : List Char) (exponent : Int) : Bool :=
  let digits := digits.dropWhile (· == '0')
  let size := digits.length + exponent
  if size < 309 then true
  else if 309 < size then digits.isEmpty
  else
    valueIn 10 digits * Nat.pow 10 exponent.toNat < tooLarge * Nat.pow 10 (-exponent).toNat

def exponent? (cs : List Char) : Option Int :=
  let (negative, rest) := signed cs
  (ungroup Char.isDigit rest).map fun digits => negateIf negative (valueIn 10 digits)

/-- A number with a fraction, an exponent or both. -/
def decimal? (cs : List Char) : Option Value :=
  let isMark (c : Char) := c == 'e' || c == 'E'
  let mantissa := cs.takeWhile (!isMark ·)
  let power := cs.dropWhile (!isMark ·)
  let whole := mantissa.takeWhile (· != '.')
  let fraction := mantissa.dropWhile (· != '.')
  if power.isEmpty && fraction.isEmpty then none
  else do
    let whole ← plainDigits whole
    let fraction ← if fraction.isEmpty then some [] else ungroup Char.isDigit (fraction.drop 1)
    let exponent ← if power.isEmpty then some 0 else exponent? (power.drop 1)
    if isFinite (whole ++ fraction) (exponent - fraction.length) then some .float else none

def float? (cs : List Char) : Option Value :=
  let rest := (signed cs).2
  if rest = ['i', 'n', 'f'] || rest = ['n', 'a', 'n'] then some .float else decimal? rest

/-- The value of two digits. -/
def pair? (a b : Char) : Option Nat :=
  if a.isDigit && b.isDigit then some (valueIn 10 [a, b]) else none

def daysIn (year month : Nat) : Nat :=
  if month = 2 then
    if year % 4 = 0 ∧ (year % 100 ≠ 0 ∨ year % 400 = 0) then 29 else 28
  else if month ∈ [4, 6, 9, 11] then 30
  else 31

def isDate : List Char → Bool
  | [a, b, c, d, '-', e, f, '-', g, h] =>
    match pair? a b, pair? c d, pair? e f, pair? g h with
    | some century, some year, some month, some day =>
      1 ≤ month && month ≤ 12 && 1 ≤ day && day ≤ daysIn (100 * century + year) month
    | _, _, _, _ => false
  | _ => false

def isFraction : List Char → Bool
  | [] => true
  | '.' :: digits => !digits.isEmpty && digits.all Char.isDigit
  | _ => false

/-- A minute may have a sixty-first second. -/
def isSecond : List Char → Bool
  | [] => true
  | ':' :: a :: b :: rest => (pair? a b).any (· ≤ 60) && isFraction rest
  | _ => false

/-- The rest of a time after its hours and minutes, if those are right. -/
def afterMinute? : List Char → Option (List Char)
  | a :: b :: ':' :: c :: d :: rest =>
    if (pair? a b).any (· ≤ 23) && (pair? c d).any (· ≤ 59) then some rest else none
  | _ => none

def isTime (cs : List Char) : Bool := (afterMinute? cs).any isSecond

def isOffset : List Char → Bool
  | ['Z'] | ['z'] | [] => true
  | '+' :: cs | '-' :: cs => afterMinute? cs == some []
  | _ => false

/-- A time that follows a date may say how far it is from universal time. -/
def isTimeWithOffset (cs : List Char) : Bool :=
  let isTimePart (c : Char) := c.isDigit || c == ':' || c == '.'
  isTime (cs.takeWhile isTimePart) && isOffset (cs.dropWhile isTimePart)

def isMoment (cs : List Char) : Bool :=
  isTime cs || isDate (cs.take 10) &&
    match cs.drop 10 with
    | [] => true
    | c :: time => (c == 'T' || c == 't' || c == ' ') && isTimeWithOffset time

def value? (cs : List Char) : Option Value :=
  if cs = ['t', 'r', 'u', 'e'] then some (.boolean true)
  else if cs = ['f', 'a', 'l', 's', 'e'] then some (.boolean false)
  else if isMoment cs then some .moment
  else (integer? cs).or (float? cs)

/-- Reads a value up to the first character that is no part of one. One blank may stand between a
date and a time. -/
def read (cs : List Char) : Option (Value × List Char) :=
  let first := cs.takeWhile isPart
  let rest := cs.dropWhile isPart
  match isDate first, rest with
  | true, ' ' :: d :: more =>
    if d.isDigit then
      let time := (d :: more).takeWhile isPart
      (value? (first ++ ' ' :: time)).map (·, (d :: more).dropWhile isPart)
    else (value? first).map (·, rest)
  | _, _ => (value? first).map (·, rest)

end KeyFlow.Document.Scalar
