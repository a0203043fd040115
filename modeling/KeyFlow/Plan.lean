import KeyFlow.Graph.Build
import KeyFlow.Graph.Cycle
import KeyFlow.Graph.Levels
import KeyFlow.Graph.Order

/-!
Compiling a flow: build its graph, check that its keys are covered and that it has no cycle, and
lay out its nodes. Every problem is reported in one pass; a cycle is reported last.
-/

namespace KeyFlow

/-- A graph without problems, with its levels and an order of its nodes. -/
structure Plan where
  graph : Graph
  schedule : Schedule
  order : List NodeId
  deriving DecidableEq, Repr

/-- The scheduled nodes in an order in which providers come before those they provide for. -/
def Plan.enqueueOrder (p : Plan) : List NodeId :=
  p.order.filter fun id => (p.schedule.levelOf id).isSome

/-- Why a description has no plan. -/
inductive Rejection where
  | issues (found : List Issue)
  | fault (f : Fault)
  deriving DecidableEq, Repr

namespace Draft

/-- All that is wrong with a finished draft. -/
def allIssues (d : Draft) : List Issue :=
  d.issues ++ d.graph.coverageIssues ++ d.graph.findCycle.toList.map Cycle.issue

end Draft

namespace Spec

def compile (s : Spec) : Except Rejection Plan :=
  match s.draft with
  | .error f => .error (.fault f)
  | .ok d =>
    match d.allIssues with
    | [] => .ok ⟨d.graph, d.graph.schedule, d.graph.order⟩
    | found => .error (.issues found)

end Spec

end KeyFlow
