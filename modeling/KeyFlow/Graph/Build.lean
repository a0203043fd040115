import KeyFlow.Fault
import KeyFlow.Graph

/-!
From a description to its graph. Every declaration is checked by itself; one with a problem of its
own is reported and left out, so that nothing follows from it. The nodes of the others sign up for
the keys they wait for and provide those they produce; of two providers the earlier one counts.
-/

namespace KeyFlow

namespace TaskDecl

/-- A task returns a value unless it is run for its effects, and then it returns none. -/
def invokeIssues (t : TaskDecl) : List Issue :=
  (if t.signature.outputs.isEmpty && !t.invoke then [⟨t.location, .producesNothing⟩] else []) ++
  (if t.invoke && !t.signature.outputs.isEmpty
    then [⟨t.location, .invokeProduces t.signature.outputs.length⟩] else [])

/-- Positions, counted from `i`, where a fallback value is not of the wanted key. -/
def fallbackMismatches (i : Nat) : List Key → List Key → List Problem
  | given :: gs, wanted :: ws =>
    (if given = wanted then [] else [.fallbackKey i given wanted]) ++
      fallbackMismatches (i + 1) gs ws
  | _, _ => []

def fallbackProblems (t : TaskDecl) : List Problem :=
  match t.fallback with
  | none => []
  | some given =>
    (if t.signature.hasError then [] else [.fallbackWithoutError]) ++
    (if given.length = t.signature.outputs.length
      then fallbackMismatches 0 given t.signature.outputs
      else [.fallbackCount t.signature.outputs.length given.length])

end TaskDecl

namespace PredicateDecl

/-- A predicate returns one `bool` and cannot fail. -/
def returnsBool (p : PredicateDecl) : Bool :=
  !p.signature.hasError && p.signature.outputs == [Key.bool]

def problems (p : PredicateDecl) : List Problem :=
  match p.signature.misuses with
  | [] =>
    (if p.signature.wantsContext then [.predicateTakesContext] else []) ++
    (if p.returnsBool then [] else [.predicateResult p.signature])
  | misuses => misuses.map .predicateSignature

def issues (p : PredicateDecl) : List Issue := p.problems.map (⟨p.location, ·⟩)

end PredicateDecl

namespace TaskDecl

/-- What is wrong with a declaration, whatever stands beside it. -/
def issues (t : TaskDecl) : List Issue :=
  match t.signature.misuses with
  | [] =>
    t.invokeIssues ++ t.fallbackProblems.map (⟨t.location, ·⟩) ++
      (match t.predicate with
        | none => []
        | some p => p.issues)
  | misuses => misuses.map (⟨t.location, .taskSignature ·⟩)

end TaskDecl

/-- A graph in the making and what was found wrong so far. -/
structure Draft where
  graph : Graph
  issues : List Issue := []
  deriving DecidableEq, Repr

namespace Draft

def addInput (d : Draft) (input : Declared) : Draft :=
  match d.graph.inputAt input.key with
  | some earlier =>
    { d with issues := d.issues ++ [⟨input.location, .duplicateInput input.key earlier⟩] }
  | none =>
    { d with graph :=
      { d.graph with flowInputs := d.graph.flowInputs ++ [(input.key, input.location)] } }

def addOutput (d : Draft) (output : Declared) : Draft :=
  if Receiver.flowOutput ∈ d.graph.receiversOf output.key then
    { d with issues := d.issues ++ [⟨output.location, .duplicateOutput output.key⟩] }
  else
    { d with graph :=
      { d.graph with receivers := d.graph.receivers ++ [(output.key, .flowOutput)] } }

/-- Enters the node to come, declared at `location`, as the provider of each key that has none. A
key that it provides already itself has an earlier provider with no place to name. -/
def provide (location : Location) : Draft → List Key → Except Fault Draft
  | d, [] => .ok d
  | d, k :: ks =>
    match d.graph.inputAt k, d.graph.providerOf k with
    | some declared, _ =>
      provide location { d with issues := d.issues ++ [⟨location, .providesInput k declared⟩] } ks
    | none, none =>
      provide location
        { d with graph :=
          { d.graph with providers := d.graph.providers ++ [(k, d.graph.nodes.length)] } } ks
    | none, some earlier =>
      match d.graph.nodes[earlier]? with
      | none => .error (.missingNode earlier)
      | some node =>
        provide location
          { d with issues := d.issues ++ [⟨location, .duplicateProvider k node.location⟩] } ks

def addNode (d : Draft) (node : Node) : Except Fault Draft := do
  let id := d.graph.nodes.length
  let signedUp := node.dependencies.map (·, Receiver.node id)
  let d := { d with graph := { d.graph with receivers := d.graph.receivers ++ signedUp } }
  let d ← d.provide node.location node.outputs
  return { d with graph := { d.graph with nodes := d.graph.nodes ++ [node] } }

/-- The gate of a task whose node is `id`; the predicate's node comes next. -/
def gateOf (ordinal id : Nat) (p : PredicateDecl) : Gate where
  location := p.location
  inputs := p.signature.inputs
  node := id + 1
  sentinel := .verdict ordinal

/-- A gated task waits for the verdict of its predicate as well. -/
def taskNode (index ordinal : Nat) (t : TaskDecl) : Node where
  kind := .task index
  location := t.location
  label := t.signature.text
  dependencies := t.signature.inputs ++ (if t.predicate.isSome then [.verdict ordinal] else [])
  outputs := if t.invoke then [.finished ordinal] else t.signature.outputs

def gateNode (index ordinal : Nat) (p : PredicateDecl) : Node where
  kind := .predicate index
  location := p.location
  label := p.signature.text
  dependencies := p.signature.inputs
  outputs := [.verdict ordinal]

def taskOf (id ordinal : Nat) (t : TaskDecl) : Task where
  name := t.title
  ordinal := ordinal
  location := t.location
  inputs := t.signature.inputs
  outputs := t.signature.outputs
  wantsContext := t.signature.wantsContext
  hasError := t.signature.hasError
  gate := t.predicate.map (gateOf ordinal id)
  fallback := t.fallback
  invoke := t.invoke
  node := id

/-- Enters a declaration without problems of its own: its node, then that of its predicate. -/
def enter (d : Draft) (ordinal : Nat) (t : TaskDecl) : Except Fault Draft := do
  let index := d.graph.tasks.length
  let task := taskOf d.graph.nodes.length ordinal t
  let d ← d.addNode (taskNode index ordinal t)
  let d ← match t.predicate with
    | none => pure d
    | some p => d.addNode (gateNode index ordinal p)
  return { d with graph := { d.graph with tasks := d.graph.tasks ++ [task] } }

def addTask (d : Draft) (ordinal : Nat) (t : TaskDecl) : Except Fault Draft :=
  match t.issues with
  | [] => d.enter ordinal t
  | issues => .ok { d with issues := d.issues ++ issues }

/-- Adds declarations in order; `ordinal` is the position of the first one. -/
def addTasks : Draft → Nat → List TaskDecl → Except Fault Draft
  | d, _, [] => .ok d
  | d, ordinal, t :: ts => do addTasks (← d.addTask ordinal t) (ordinal + 1) ts

end Draft

namespace Spec

/-- The graph of a flow before anything is entered. -/
def emptyGraph (s : Spec) : Graph where
  name := s.name
  location := s.location
  inputs := s.inputs
  outputs := s.outputs

def draft (s : Spec) : Except Fault Draft :=
  let declared := s.outputs.foldl Draft.addOutput (s.inputs.foldl Draft.addInput ⟨s.emptyGraph, []⟩)
  declared.addTasks 0 s.tasks

end Spec

end KeyFlow
