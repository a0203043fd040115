import KeyFlow.Problem

/-!
The graph of a flow: its tasks, one node for each task and each predicate, and who provides and who
receives each key.
-/

namespace KeyFlow

/-- A node stands for the task with this index or for the predicate of that task. -/
inductive NodeKind where
  | task (index : Nat)
  | predicate (index : Nat)
  deriving DecidableEq, Repr

structure Node where
  kind : NodeKind
  location : Location
  /-- The signature as text, shown in cycle reports. -/
  label : String
  dependencies : List Key
  outputs : List Key
  deriving DecidableEq, Repr

namespace Node

def taskIndex (n : Node) : Nat :=
  match n.kind with
  | .task i | .predicate i => i

def isPredicate (n : Node) : Bool :=
  match n.kind with
  | .task _ => false
  | .predicate _ => true

end Node

/-- The predicate of a compiled task. -/
structure Gate where
  location : Location
  inputs : List Key
  node : NodeId
  /-- What the predicate's node provides and the gated task waits for. -/
  sentinel : Key
  deriving DecidableEq, Repr

/-- A task that passed the checks of its own declaration. -/
structure Task where
  name : String
  /-- Position among the declarations of the flow. -/
  ordinal : Nat
  location : Location
  inputs : List Key
  outputs : List Key
  wantsContext : Bool
  hasError : Bool
  gate : Option Gate
  fallback : Option (List Key)
  invoke : Bool
  node : NodeId
  deriving DecidableEq, Repr

/-- Inputs of the task, then those of its predicate that it does not list already. -/
def Task.dependencies (t : Task) : List Key :=
  match t.gate with
  | none => t.inputs
  | some g => g.inputs.foldl (fun keys k => if k ∈ keys then keys else keys ++ [k]) t.inputs

inductive Receiver where
  | node (id : NodeId)
  | flowOutput
  deriving DecidableEq, Repr

structure Graph where
  name : String
  location : Location
  inputs : List Declared
  outputs : List Declared
  tasks : List Task := []
  nodes : List Node := []
  /-- Each provided key once. -/
  providers : List (Key × NodeId) := []
  /-- Each declared input once, where it was declared first. -/
  flowInputs : List (Key × Location) := []
  /-- Who waits for a key, in the order of signing up. -/
  receivers : List (Key × Receiver) := []
  deriving DecidableEq, Repr

/-- The elements of a list in the order in which they first occur. -/
def distinct {α : Type} [DecidableEq α] (xs : List α) : List α :=
  xs.foldl (fun seen x => if x ∈ seen then seen else seen ++ [x]) []

namespace Graph

def providerOf (g : Graph) (k : Key) : Option NodeId := g.providers.lookup k

def inputAt (g : Graph) (k : Key) : Option Location := g.flowInputs.lookup k

def isFlowInput (g : Graph) (k : Key) : Bool := (g.inputAt k).isSome

def receiversOf (g : Graph) (k : Key) : List Receiver :=
  (g.receivers.filter (·.1 == k)).map (·.2)

/-- The keys a node waits for. -/
def dependenciesOf (g : Graph) (id : NodeId) : List Key :=
  match g.nodes[id]? with
  | some n => n.dependencies
  | none => []

/-- The providers of the keys a node waits for; flow inputs have none. -/
def dependencyNodes (g : Graph) (id : NodeId) : List NodeId :=
  distinct ((g.dependenciesOf id).filterMap g.providerOf)

/-- The nodes a run is wanted for: providers of the outputs, then tasks run for their effects. -/
def roots (g : Graph) : List NodeId :=
  distinct (g.outputs.filterMap (g.providerOf ·.key) ++
    (g.tasks.filter (·.invoke)).map (·.node))

end Graph

end KeyFlow
