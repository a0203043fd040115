import KeyFlow.Graph.Coverage

/-!
An order of all nodes in which dependencies come first. A stack machine walks depth first: a node
met for the first time stays on the stack below its dependencies, met again it is done.
-/

namespace KeyFlow

namespace Graph

/-- Works off the stack. `met` holds the nodes met so far, `done` those finished, oldest first. -/
def walk (g : Graph) (stack met done : List NodeId) : List NodeId × List NodeId :=
  match stack with
  | [] => (met, done)
  | id :: rest =>
    if _known : id ∈ met ∨ g.nodes.length ≤ id then
      g.walk rest met (if id ∈ done then done else done ++ [id])
    else
      g.walk ((g.dependencyNodes id).filter (· ∉ id :: met) ++ id :: rest) (id :: met) done
termination_by (unmarked (List.range g.nodes.length) met, stack.length)
decreasing_by
  · exact Prod.Lex.right _ (by simp)
  · apply Prod.Lex.left
    have := not_or.mp _known
    exact unmarked_cons_lt (List.mem_range.mpr (Nat.lt_of_not_le this.2)) this.1

/-- Starts at each node in the order of declaration; what one walk met the next does not enter. -/
def order (g : Graph) : List NodeId :=
  ((List.range g.nodes.length).foldl (fun (met, done) start => g.walk [start] met done)
    ([], [])).2

/-- Each node with each of its dependency nodes. -/
def edges (g : Graph) : List (NodeId × NodeId) :=
  (List.range g.nodes.length).flatMap fun id => (g.dependencyNodes id).map (id, ·)

end Graph

end KeyFlow
