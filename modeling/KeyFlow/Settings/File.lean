import KeyFlow.Settings.Written

/-!
Settings from a file, which may be missing or hold bytes that are no text.
-/

namespace KeyFlow

/-- What is found at the path of the settings. -/
inductive SettingsFile where
  | missing
  | holding (bytes : ByteArray)

inductive FileError where
  | missing
  | notText
  deriving DecidableEq, Repr

def FileError.message : FileError → String
  | .missing => "No such file or directory (os error 2)"
  | .notText => "stream did not contain valid UTF-8"

namespace SettingsFile

def text : SettingsFile → Except FileError String
  | .missing => .error .missing
  | .holding bytes =>
    match String.fromUTF8? bytes with
    | none => .error .notText
    | some s => .ok s

/-- Reads a file by a reader of texts. -/
def readWith {α : Type} (parse : String → Except Error α) (f : SettingsFile) : Except Error α :=
  match f.text with
  | .error e => .error (.io e.message)
  | .ok s => parse s

/-- Reads a file without checking what it says. -/
def readWritten (f : SettingsFile) : Except Error WrittenSettings :=
  f.readWith WrittenSettings.parse

/-- Reads a file and checks it. -/
def read (f : SettingsFile) : Except Error Settings := f.readWith Settings.parse

end SettingsFile

end KeyFlow
