import KeyFlow.Fault
import KeyFlow.Logging.Level
import KeyFlow.Logging.Pattern
import KeyFlow.Text.Bytes

/-!
Directives say up to which level records are shown: `level`, `target`, `target=level`, or with a
span and a field of it between brackets, as in `target[span{field=value}]=level`.

A directive is taken apart without the blanks at its ends, but the words are cut out of the text
with them, at the same places.
-/

namespace KeyFlow

/-- A field that a span or a record has, perhaps with a pattern for its value. -/
structure FieldTest where
  name : String
  value : Option String
  deriving DecidableEq, Repr

/-- One directive; without a target it fits every target, without a level it shows nothing. -/
structure Directive where
  target : Option String
  span : Option String := none
  field : Option FieldTest := none
  limit : Option Level
  deriving DecidableEq, Repr

namespace Directive

/-- Why a directive cannot be read. -/
inductive Refusal where
  | unreadable
  | fault (f : Fault)
  deriving DecidableEq, Repr

/-- A whole number; a plus sign and zeros may stand in front of it. -/
def number? (cs : List Char) : Option Nat :=
  let digits := match cs with
    | '+' :: digits => digits
    | digits => digits
  if digits.isEmpty || !digits.all Char.isDigit then none
  else some (digits.foldl (fun n c => 10 * n + (c.toNat - '0'.toNat)) 0)

/-- The level of a word or a number; the inner `none` stands for silence. -/
def limit? (cs : List Char) : Option (Option Level) :=
  match number? cs with
  | some 0 => some none
  | some n => (Level.all.find? (·.detail = n)).map some
  | none =>
    let name := String.ofList (cs.map Char.toLower)
    if name = "off" then some none else (Level.all.find? (·.text = name)).map some

/-- Characters that a directive may start with, a bracket apart. -/
def startsWell (c : Char) : Bool :=
  c == '-' || c == ':' || c == '_' || Text.isAlphanumeric c

/-! ## Words -/

def between (piece : List Char) (first last : Nat) : Except Refusal (List Char) :=
  match Text.sliceBytes piece first last with
  | some word => .ok word
  | none => .error (.fault .insideCharacter)

/-- The level that begins at a place; if nothing stands there, everything is shown. -/
def limitFrom (piece : List Char) (place : Nat) : Except Refusal (Option Level) := do
  let word ← between piece place (Text.byteLength piece)
  if word.isEmpty then .ok (some .trace)
  else match limit? word with
    | some limit => .ok limit
    | none => .error .unreadable

/-- What may follow a bracket that closes at this place. -/
def limitBehind (piece : List Char) (place : Nat) : List Char → Except Refusal (Option Level)
  | [] => .ok (some .trace)
  | '=' :: _ => limitFrom piece (place + 1)
  | _ => .error .unreadable

/-- Reads a name, or a name and a value; what a second sign for equality cuts off is lost. -/
def fieldTest (word : List Char) : Except Refusal FieldTest :=
  let name := word.takeWhile (· != '=')
  if word.isEmpty then .error .unreadable
  else match word.drop name.length with
    | [] => .ok ⟨String.ofList name, none⟩
    | _ :: rest =>
      let value := rest.takeWhile (· != '=')
      if Pattern.isReadable value then .ok ⟨String.ofList name, some (String.ofList value)⟩
      else .error .unreadable

/-- Reads what stands from a place behind an opening bracket on. -/
def readSpan (piece : List Char) (target : Option String) (place : Nat) (cs : List Char) :
    Except Refusal Directive := do
  let name := cs.takeWhile fun c => c != ']' && c != '\x7b'
  let stop := place + Text.byteLength name
  match cs.drop name.length with
  | ']' :: rest =>
    let span ← between piece place stop
    let limit ← limitBehind piece (stop + 1) rest
    .ok { target, span := some (String.ofList span), limit }
  | '\x7b' :: rest =>
    let span ← between piece place stop
    let test := rest.takeWhile (· != '\x7d')
    let close := stop + 1 + Text.byteLength test
    match rest.drop test.length with
    | '\x7d' :: rest =>
      let word ← between piece (stop + 1) close
      let field ← fieldTest word
      match rest with
      | ']' :: rest =>
        let limit ← limitBehind piece (close + 2) rest
        let span := if span.isEmpty then none else some (String.ofList span)
        .ok { target, span, field := some field, limit }
      | _ => .error .unreadable
    | _ => .error .unreadable
  | _ => .error .unreadable

def read (piece : List Char) : Except Refusal Directive := do
  match Text.trimChars piece with
  | [] => .error .unreadable
  | '[' :: rest => readSpan piece none 1 rest
  | c :: cs =>
    let word := (c :: cs).takeWhile fun c => c != '=' && c != '['
    let stop := Text.byteLength word
    if !startsWell c then .error .unreadable
    else match (c :: cs).drop word.length with
      | [] =>
        match limit? piece with
        | some limit => .ok { target := none, limit }
        | none => .ok { target := some (String.ofList piece), limit := some .trace }
      | sign :: rest =>
        let target ← between piece 0 stop
        if sign == '[' then readSpan piece (some (String.ofList target)) (stop + 1) rest
        else
          let limit ← limitFrom piece (stop + 1)
          .ok { target := some (String.ofList target), limit }

/-! ## Records -/

/-- What holds of a record by itself: spans and values are not known before it is written. -/
def isStatic (d : Directive) : Bool := d.span.isNone && d.field.all (·.value.isNone)

def fits (d : Directive) (target : String) (fields : List String) : Bool :=
  d.isStatic && d.target.all (·.toList.isPrefixOf target.toList) &&
    d.field.all (fields.contains ·.name)

/-- `d` is at least as specific as `e`: longer targets are more specific, and any target more than
none; among equals a field is. -/
def overrides (d e : Directive) : Bool :=
  let size (d : Directive) := match d.target with
    | none => 0
    | some t => t.length + 1
  size e < size d || (size e == size d && (e.field.isNone || d.field.isSome))

end Directive

end KeyFlow
