import KeyFlow.Key

/-!
Values that pass between tasks: data, with the name of its type if it has one.
-/

namespace KeyFlow

inductive Datum where
  | null
  | bool (b : Bool)
  | int (n : Int)
  | text (s : String)
  | list (xs : List Datum)
  | record (fields : List (String × Datum))

structure Value where
  type : Option String
  datum : Datum

namespace Value

def untyped (d : Datum) : Value := ⟨none, d⟩

/-- A verdict as a task sees it: its type is known to the runs of flows alone, so nobody can look
into it. -/
def verdict : Value := ⟨some "Verdict", .null⟩

/-- A value as it is kept under a key: of the key's type, untyped under any other key. -/
def under (k : Key) (d : Datum) : Value :=
  match k with
  | .typed type => ⟨some type, d⟩
  | _ => ⟨none, d⟩

/-- The value may be read as the type of the key; a key that is no type asks for none. -/
def fits (v : Value) (k : Key) : Bool :=
  match k with
  | .typed type => v.type == some type
  | _ => true

def int? (v : Value) : Option Int :=
  match v.datum with
  | .int n => some n
  | _ => none

end Value

end KeyFlow
