import KeyFlow.Document.Reader
import KeyFlow.Error
import KeyFlow.Logging.Level
import KeyFlow.Settings.Duration
import KeyFlow.Settings.Run

/-!
Settings as a document writes them, and the settings that they come to. What a document does not
mention has a default, and what it mentions beyond the settings does not matter.
-/

namespace KeyFlow

namespace Document

namespace Value

/-- A count fits in 64 bits. -/
def count? : Value → Option Nat
  | .integer n => if 0 ≤ n ∧ n ≤ wordMax then some n.toNat else none
  | _ => none

def bool? : Value → Option Bool
  | .boolean b => some b
  | _ => none

def text? : Value → Option String
  | .text s => some s
  | _ => none

/-- A level is its name in lower case, or a table of nothing but that name with nothing under it. -/
def level? : Value → Option Level
  | .text name => Level.named? name
  | .table _ [(name, .array [])] | .table _ [(name, .table _ [])] => Level.named? name
  | _ => none

/-- The values that a section gives to its keys. It may be a table, or an array of the values in the
order of the keys; a date or a time gives none. -/
def section? (keys : List String) : Value → Option Entries
  | .table _ entries => some entries
  | .array values => some (keys.zip values)
  | .tables all => some (keys.zip (all.map (.table .defined)))
  | .moment => some []
  | _ => none

end Value

/-- Reads an entry if it is there. -/
def Entries.read {α : Type} (es : Entries) (key : String) (value? : Value → Option α)
    (fallback : α) : Option α :=
  match es.lookup key with
  | none => some fallback
  | some v => value? v

end Document

/-- The entries of `[scheduler]` and `[logging]` before any check. -/
structure WrittenSettings where
  concurrency : Option Nat := none
  continueOnError : Bool := false
  flushFrequency : String := "100ms"
  level : Option Level := none
  deriving DecidableEq, Repr

/-- The settings of a program. -/
structure Settings where
  run : RunSettings := {}
  level : Option Level := none
  deriving DecidableEq

namespace WrittenSettings

def readScheduler (s : WrittenSettings) (v : Document.Value) : Option WrittenSettings := do
  let es ← v.section? ["concurrency", "continue_on_error", "state_flush_frequency"]
  let concurrency ← es.read "concurrency" (fun v => v.count?.map some) s.concurrency
  let continueOnError ← es.read "continue_on_error" (·.bool?) s.continueOnError
  let flushFrequency ← es.read "state_flush_frequency" (·.text?) s.flushFrequency
  some { s with concurrency, continueOnError, flushFrequency }

def readLogging (s : WrittenSettings) (v : Document.Value) : Option WrittenSettings := do
  let es ← v.section? ["level"]
  let level ← es.read "level" (fun v => v.level?.map some) s.level
  some { s with level }

def ofEntries (es : Document.Entries) : Option WrittenSettings := do
  let s ← es.read "scheduler" (readScheduler {}) {}
  es.read "logging" s.readLogging s

/-- Reads the text of a document. -/
def parse (text : String) : Except Error WrittenSettings :=
  match (Document.read text).bind ofEntries with
  | some s => .ok s
  | none => .error .toml

end WrittenSettings

inductive SettingsError where
  | noConcurrency
  | flushFrequency (e : DurationError)
  | noFlushFrequency
  deriving DecidableEq, Repr

def SettingsError.message : SettingsError → String
  | .noConcurrency => "[scheduler].concurrency must be >= 1 (got 0); omit it for no limit"
  | .flushFrequency e => s!"[scheduler].state_flush_frequency: {e.message}"
  | .noFlushFrequency => "[scheduler].state_flush_frequency must be greater than zero"

namespace WrittenSettings

/-- The settings that are written, if they make sense; the limit is looked at first. -/
def check (s : WrittenSettings) : Except SettingsError Settings :=
  if s.concurrency = some 0 then .error .noConcurrency
  else match Duration.parse s.flushFrequency with
    | .error e => .error (.flushFrequency e)
    | .ok 0 => .error .noFlushFrequency
    | .ok millis =>
      .ok { run := ⟨s.concurrency.bind Limit.ofNat, s.continueOnError, millis⟩, level := s.level }

end WrittenSettings

namespace Settings

/-- Reads and checks the text of a document. -/
def parse (text : String) : Except Error Settings :=
  match WrittenSettings.parse text with
  | .error e => .error e
  | .ok s =>
    match s.check with
    | .error e => .error (.config e.message)
    | .ok s => .ok s

end Settings

end KeyFlow
