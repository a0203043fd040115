/-!
The values of a settings document. A table remembers how it came to be, which decides who may
still add to it: a header completes a table that other headers only implied, dotted keys add to
tables that dotted keys made, and what is written between braces is closed.
-/

namespace KeyFlow.Document

inductive TableKind where
  /-- A header names the table, or it is the document itself. -/
  | defined
  /-- A header names something inside the table. -/
  | implied
  /-- A dotted key names something inside the table. -/
  | dotted
  /-- The table is written between braces. -/
  | closed
  deriving DecidableEq, Repr

inductive Value where
  | text (s : String)
  | integer (n : Int)
  | float
  | boolean (b : Bool)
  /-- A date, a time or both. -/
  | moment
  | array (elements : List Value)
  | table (kind : TableKind) (entries : List (String × Value))
  /-- Tables that headers with two brackets add one by one. -/
  | tables (all : List (List (String × Value)))

abbrev Entries : Type := List (String × Value)

namespace Entries

/-- Gives a key that is there another value. -/
def replace (k : String) (v : Value) (es : Entries) : Entries :=
  es.map fun e => if e.1 = k then (k, v) else e

/-- A key that is there already is refused. -/
def add (k : String) (v : Value) (es : Entries) : Option Entries :=
  match es.lookup k with
  | none => some (es ++ [(k, v)])
  | some _ => none

/-- Changes the table that the path of a header leads to, making the tables on its way. An array of
tables is entered at its last one. -/
def within (change : Entries → Option Entries) : List String → Entries → Option Entries
  | [], es => change es
  | k :: ks, es =>
    match es.lookup k with
    | none => (within change ks []).map fun inner => es ++ [(k, .table .implied inner)]
    | some (.table .closed _) => none
    | some (.table kind inner) =>
      (within change ks inner).map fun inner => es.replace k (.table kind inner)
    | some (.tables all) =>
      match all.getLast? with
      | none => none
      | some last =>
        (within change ks last).map fun inner => es.replace k (.tables (all.dropLast ++ [inner]))
    | some _ => none

/-- Begins the table of a header. -/
def define (k : String) (es : Entries) : Option Entries :=
  match es.lookup k with
  | none => some (es ++ [(k, .table .defined [])])
  | some (.table .implied inner) => some (es.replace k (.table .defined inner))
  | some _ => none

/-- Begins one more table of an array of tables. -/
def append (k : String) (es : Entries) : Option Entries :=
  match es.lookup k with
  | none => some (es ++ [(k, .tables [[]])])
  | some (.tables all) => some (es.replace k (.tables (all ++ [[]])))
  | some _ => none

/-- Adds a value under the parts of a dotted key after the first ones. The value goes into a table
that dotted keys made; `inside` says that the way led to one. -/
def addInside (last : String) (v : Value) : List String → Bool → Entries → Option Entries
  | [], inside, es => if inside then es.add last v else none
  | k :: ks, _, es =>
    match es.lookup k with
    | none => (addInside last v ks true []).map fun inner => es ++ [(k, .table .dotted inner)]
    | some (.table .dotted inner) =>
      (addInside last v ks true inner).map fun inner => es.replace k (.table .dotted inner)
    | some (.table .implied inner) =>
      (addInside last v ks false inner).map fun inner => es.replace k (.table .implied inner)
    | some (.tables all) =>
      match all.getLast? with
      | none => none
      | some table =>
        (addInside last v ks false table).map fun inner =>
          es.replace k (.tables (all.dropLast ++ [inner]))
    | some _ => none

/-- Adds a value under a key of one or more parts. -/
def put (way : List String) (last : String) (v : Value) (es : Entries) : Option Entries :=
  addInside last v way true es

end Entries

end KeyFlow.Document
