import KeyFlow.Text.Blank
import KeyFlow.Text.Lowercase

/-!
Log levels, from the gravest to the most detailed, and which one a program logs at: the level it
asks for, else the one its environment names, else `info`.
-/

namespace KeyFlow

inductive Level where
  | error
  | warn
  | info
  | debug
  | trace
  deriving DecidableEq, Repr

namespace Level

def all : List Level := [.error, .warn, .info, .debug, .trace]

def text : Level → String
  | .error => "error"
  | .warn => "warn"
  | .info => "info"
  | .debug => "debug"
  | .trace => "trace"

/-- The level as it stands in a log record. -/
def label : Level → String
  | .error => "ERROR"
  | .warn => "WARN"
  | .info => "INFO"
  | .debug => "DEBUG"
  | .trace => "TRACE"

/-- How much a level shows: it shows every level that is not above it. -/
def detail : Level → Nat
  | .error => 1
  | .warn => 2
  | .info => 3
  | .debug => 4
  | .trace => 5

def shows (limit level : Level) : Bool := level.detail ≤ limit.detail

/-- The level of a name in lower case. -/
def named? (name : String) : Option Level :=
  if name = "warning" then some .warn else all.find? (·.text = name)

structure Unknown where
  /-- The name in lower case and without blanks at its ends. -/
  name : String
  deriving DecidableEq, Repr

def Unknown.message (u : Unknown) : String := s!"unknown log level '{u.name}'"

/-- Reads a name in any case with blanks around it. -/
def parse (s : String) : Except Unknown Level :=
  let name := Text.lower (Text.trim s)
  match named? name with
  | some level => .ok level
  | none => .error ⟨name⟩

def resolve (explicit : Option Level) (environment : Option String) : Level :=
  match explicit with
  | some level => level
  | none =>
    match environment.map parse with
    | some (.ok level) => level
    | _ => .info

end Level

/-- The log of a process; its level is set once. -/
structure Logger where
  limit : Option Level := none
  deriving DecidableEq, Repr

namespace Logger

/-- Sets the level of a log that has none; a second attempt fails. -/
def install (l : Logger) (explicit : Option Level) (environment : Option String) :
    Option Logger :=
  match l.limit with
  | none => some ⟨some (Level.resolve explicit environment)⟩
  | some _ => none

def shown (l : Logger) : List Level :=
  match l.limit with
  | none => []
  | some limit => Level.all.filter limit.shows

end Logger

end KeyFlow
