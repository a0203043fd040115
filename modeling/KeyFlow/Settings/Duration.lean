import KeyFlow.Text.Blank

/-!
Durations as people write them: a number, then one of the units `ms`, `s`, `m` and `h` in any case,
with blanks before, between and after. A duration is counted in milliseconds and fits in 64 bits.
-/

namespace KeyFlow

/-- The largest number that 64 bits hold. -/
def wordMax : Nat := UInt64.size - 1

inductive DurationError where
  | empty
  | noUnit (text : String)
  | noNumber
  | numberTooLarge (digits : String)
  | unknownUnit (unit : String)
  | tooLarge (text : String)
  deriving DecidableEq, Repr

def DurationError.message : DurationError → String
  | .empty => "empty duration string"
  | .noUnit text => s!"duration missing unit suffix in '{text}'"
  | .noNumber => "invalid duration number '': cannot parse integer from empty string"
  | .numberTooLarge digits =>
    s!"invalid duration number '{digits}': number too large to fit in target type"
  | .unknownUnit unit => s!"unsupported duration unit '{unit}'; expected ms, s, m or h"
  | .tooLarge text => s!"duration '{text}' is too large"

namespace Duration

/-- The value of a run of decimal digits. -/
def digitsValue (digits : List Char) : Nat :=
  digits.foldl (fun n c => 10 * n + (c.toNat - '0'.toNat)) 0

/-- Milliseconds in a unit, which is given in lower case. -/
def unitMillis? (unit : String) : Option Nat :=
  if unit = "ms" then some 1
  else if unit = "s" then some 1000
  else if unit = "m" then some 60000
  else if unit = "h" then some 3600000
  else none

/-- Reads a text without blanks at its ends. -/
def ofTrimmed (cs : List Char) : Except DurationError Nat :=
  let text := String.ofList cs
  let digits := cs.takeWhile Char.isDigit
  let rest := cs.dropWhile Char.isDigit
  let unit := String.ofList ((Text.trimChars rest).map Char.toLower)
  if cs.isEmpty then .error .empty
  else if rest.isEmpty then .error (.noUnit text)
  else if digits.isEmpty then .error .noNumber
  else if wordMax < digitsValue digits then .error (.numberTooLarge (String.ofList digits))
  else match unitMillis? unit with
    | none => .error (.unknownUnit unit)
    | some millis =>
      if wordMax < digitsValue digits * millis then .error (.tooLarge text)
      else .ok (digitsValue digits * millis)

/-- The milliseconds that a text stands for. -/
def parse (s : String) : Except DurationError Nat := ofTrimmed (Text.trimChars s.toList)

/-- Milliseconds in the largest of the units `s` and `ms` that has a whole part, with the decimals
that are needed. -/
def text (millis : Nat) : String :=
  if millis = 0 then "0ns"
  else if millis < 1000 then s!"{millis}ms"
  else
    let decimals := (toString (1000 + millis % 1000)).toList.drop 1
    let shown := (decimals.reverse.dropWhile (· == '0')).reverse
    let point := if shown.isEmpty then "" else "."
    s!"{millis / 1000}{point}{String.ofList shown}s"

end Duration

end KeyFlow
