import KeyFlow.Graph

/-!
Levels of a graph. Sweep `d` holds the nodes at the end of a dependency path of length `d` from a
root; a node belongs to its last sweep, and the last sweep is the last level.
-/

namespace KeyFlow

/-- Levels of node ids, those that run first standing first. -/
structure Schedule where
  levels : List (List NodeId) := []
  deriving DecidableEq, Repr

namespace Schedule

def levelOf (s : Schedule) (id : NodeId) : Option Nat := s.levels.findIdx? (id ∈ ·)

/-- All scheduled nodes, level by level. -/
def nodes (s : Schedule) : List NodeId := s.levels.flatten

end Schedule

namespace Graph

/-- At most `bound` sweeps, each the dependency nodes of the one before, none empty. -/
def sweeps (g : Graph) : (bound : Nat) → List NodeId → List (List NodeId)
  | 0, _ => []
  | _ + 1, [] => []
  | bound + 1, frontier =>
    frontier :: g.sweeps bound (distinct (frontier.flatMap g.dependencyNodes))

/-- The last sweep that holds the node. -/
def lastSweep (id : NodeId) (sweeps : List (List NodeId)) : Option Nat :=
  (List.range sweeps.length).findRev? fun d =>
    match sweeps[d]? with
    | some nodes => id ∈ nodes
    | none => false

def schedule (g : Graph) : Schedule :=
  let sweeps := g.sweeps (g.nodes.length + 1) g.roots
  { levels := (List.range sweeps.length).reverse.map fun d =>
      (List.range g.nodes.length).filter fun id => lastSweep id sweeps == some d }

end Graph

end KeyFlow
