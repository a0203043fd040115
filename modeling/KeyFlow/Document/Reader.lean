import KeyFlow.Document.Scalar
import KeyFlow.Document.Strings

/-!
Reading a settings document in TOML: lines of keys with values, gathered under headers. What is
wrong with a document is not told; it either has a meaning or has none.
-/

namespace KeyFlow.Document

/-- What is read, and what is left to read. -/
abbrev Read (α : Type) : Type := Option (α × List Char)

def skipBlanks (cs : List Char) : List Char := cs.dropWhile Strings.isBlank

/-- Ends a line: a comment may stand before the break. -/
def endLine (cs : List Char) : Option (List Char) :=
  let isInLine (c : Char) := c != '\n' && c != '\r'
  let rest := match skipBlanks cs with
    | '#' :: comment =>
      if (comment.takeWhile isInLine).all Strings.isPlain then some (comment.dropWhile isInLine)
      else none
    | rest => some rest
  match rest with
  | some [] => some []
  | some ('\n' :: rest) => some rest
  | some ('\r' :: '\n' :: rest) => some rest
  | _ => none

/-- Skips blanks, comments and line breaks; `bound` limits the lines. -/
def skipGaps : (bound : Nat) → List Char → Option (List Char)
  | 0, _ => none
  | bound + 1, cs =>
    match skipBlanks cs with
    | [] => some []
    | c :: rest =>
      if c == '#' || c == '\n' || c == '\r' then
        (endLine (c :: rest)).bind (skipGaps bound)
      else some (c :: rest)

def isBareKey (c : Char) : Bool := c.isAlphanum || c == '_' || c == '-'

def keyPart (cs : List Char) : Read String :=
  match Strings.line? cs with
  | some read => read
  | none =>
    let name := cs.takeWhile isBareKey
    if name.isEmpty then none else some (String.ofList name, cs.dropWhile isBareKey)

/-- Reads a key of at most so many parts: the parts before the last one, and the last one. -/
def keyOf : (most : Nat) → List Char → Read (List String × String)
  | 0, _ => none
  | most + 1, cs =>
    match keyPart (skipBlanks cs) with
    | none => none
    | some (part, rest) =>
      match skipBlanks rest with
      | '.' :: rest => (keyOf most rest).map fun ((way, last), rest) => ((part :: way, last), rest)
      | rest => some (([], part), rest)

/-- Arrays and tables are nested at most this far, and a key has at most so many parts. -/
def deepest : Nat := 80

def key (cs : List Char) : Read (List String × String) := keyOf deepest cs

/-- Reads a key and the value after the sign for equality; `gaps` skips what may stand around the
sign. -/
def assignment (item : List Char → Read Value) (gaps : List Char → Option (List Char))
    (cs : List Char) : Read ((List String × String) × Value) :=
  (key cs).bind fun (k, rest) =>
    match gaps rest with
    | some ('=' :: rest) => ((gaps rest).bind item).map fun (v, rest) => ((k, v), rest)
    | _ => none

/-- Reads the elements of an array up to its end. -/
def elements (item : List Char → Read Value) : (bound : Nat) → List Char → Read (List Value)
  | 0, _ => none
  | bound + 1, cs =>
    match skipGaps (bound + 1) cs with
    | none => none
    | some (']' :: rest) => some ([], rest)
    | some cs =>
      (item cs).bind fun (v, rest) =>
        match skipGaps (bound + 1) rest with
        | some (']' :: rest) => some ([v], rest)
        | some (',' :: rest) => (elements item bound rest).map fun (vs, rest) => (v :: vs, rest)
        | _ => none

/-- Reads the entries of a table between braces up to its end. Unlike elsewhere the lines may be
broken around the sign for equality. -/
def fields (item : List Char → Read Value) : (bound : Nat) → Entries → List Char → Read Entries
  | 0, _, _ => none
  | bound + 1, es, cs =>
    match skipGaps (bound + 1) cs with
    | none => none
    | some ('\x7d' :: rest) => some (es, rest)
    | some cs =>
      (assignment item (skipGaps (bound + 1)) cs).bind fun (((way, last), v), rest) =>
        match es.put way last v, skipGaps (bound + 1) rest with
        | some es, some ('\x7d' :: rest) => some (es, rest)
        | some es, some (',' :: rest) => fields item bound es rest
        | _, _ => none

/-- Reads a value; `depth` limits how far arrays and tables may be nested. -/
def value (bound : Nat) : (depth : Nat) → List Char → Read Value
  | 0, cs => leaf cs
  | depth + 1, cs =>
    match cs with
    | '[' :: rest =>
      (elements (value bound depth) bound rest).map fun (vs, rest) => (.array vs, rest)
    | '\x7b' :: rest =>
      (fields (value bound depth) bound [] rest).map fun (es, rest) => (.table .closed es, rest)
    | cs => leaf cs
where
  leaf (cs : List Char) : Read Value :=
    match Strings.text? cs with
    | some read => read.map fun (s, rest) => (.text s, rest)
    | none => Scalar.read cs

/-- A header, and the path of the section that it begins. -/
def header (root : Entries) (cs : List Char) : Read (List String × Entries) :=
  match cs with
  | '[' :: '[' :: rest =>
    match key rest with
    | some ((way, last), ']' :: ']' :: rest) =>
      (root.within (Entries.append last) way).map fun root => ((way ++ [last], root), rest)
    | _ => none
  | '[' :: rest =>
    match key rest with
    | some ((way, last), ']' :: rest) =>
      (root.within (Entries.define last) way).map fun root => ((way ++ [last], root), rest)
    | _ => none
  | _ => none

/-- Reads line after line into the section that the last header began. -/
def lines (bound : Nat) : (left : Nat) → List String → Entries → List Char → Option Entries
  | 0, _, _, _ => none
  | left + 1, path, root, cs =>
    match skipBlanks cs with
    | [] => some root
    | c :: rest =>
      if c == '#' || c == '\n' || c == '\r' then
        (endLine (c :: rest)).bind (lines bound left path root)
      else if c == '[' then
        (header root (c :: rest)).bind fun ((path, root), rest) =>
          (endLine rest).bind (lines bound left path root)
      else
        let read := assignment (value bound deepest) (some ∘ skipBlanks) (c :: rest)
        read.bind fun (((way, last), v), rest) =>
          (root.within (Entries.put way last v) path).bind fun root =>
            (endLine rest).bind (lines bound left path root)

/-- The entries of a document. A mark of byte order may stand before it. -/
def read (s : String) : Option Entries :=
  let cs := match s.toList with
    | '\ufeff' :: rest => rest
    | cs => cs
  let bound := cs.length + 1
  lines bound bound [] [] cs

end KeyFlow.Document
