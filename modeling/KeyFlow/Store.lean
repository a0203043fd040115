import KeyFlow.Plan

/-!
Stores keep what passes between the tasks of one run. There is a slot for each flow input and each
output of a node, and a slot is written once.
-/

namespace KeyFlow

/-- Slots in a fixed order, each empty or written. -/
structure Store (α : Type) where
  slots : List (Key × Option α)

inductive StoreError where
  | noSlot (key : Key)
  | written (key : Key)
  deriving DecidableEq, Repr

def StoreError.message : StoreError → String
  | .noSlot k => s!"no slot for {k.text} in this flow"
  | .written k => s!"{k.text} was already written"

namespace Store

variable {α : Type}

def forPlan (p : Plan) : Store α :=
  ⟨(distinct (p.graph.inputs.map (·.key) ++ p.graph.nodes.flatMap (·.outputs))).map (·, none)⟩

def get? (s : Store α) (k : Key) : Option α := (s.slots.lookup k).join

def contains (s : Store α) (k : Key) : Bool := (s.get? k).isSome

def set (s : Store α) (k : Key) (a : α) : Except StoreError (Store α) :=
  match s.slots.lookup k with
  | none => .error (.noSlot k)
  | some (some _) => .error (.written k)
  | some none => .ok ⟨s.slots.map fun slot => if slot.1 = k then (k, some a) else slot⟩

/-- Writes pairs in order up to the first that is refused; those before it stay written. -/
def setAll (s : Store α) : List (Key × α) → Except StoreError Unit × Store α
  | [] => (.ok (), s)
  | (k, a) :: rest =>
    match s.set k a with
    | .error e => (.error e, s)
    | .ok s => s.setAll rest

end Store

end KeyFlow
