import KeyFlow.Graph.Coverage

/-!
Dependency cycles. The search goes depth first from key to key over the providers; a key met again
on the path of its own search closes a cycle, and a key searched to the end is not entered again.
-/

namespace KeyFlow

/-- The hops of a cycle, and the place of the provider that closes it. -/
structure Cycle where
  location : Location
  chain : List CycleStep
  deriving DecidableEq, Repr

def Cycle.issue (c : Cycle) : Issue := ⟨c.location, .cycle c.chain⟩

namespace Graph

def labelOf (g : Graph) (id : NodeId) : String :=
  match g.nodes[id]? with
  | some n => n.label
  | none => ""

def stepTo (g : Graph) (id : NodeId) (k : Key) : CycleStep := ⟨id, g.labelOf id, k⟩

/-- The part of the path from the first hop that provides `k`. -/
def pathFrom (path : List CycleStep) (k : Key) : List CycleStep :=
  path.dropWhile (·.provides ≠ k)

/-- Searches the keys in order, each to its end, below a path of hops. The answer without a cycle
is the list of keys searched to the end. -/
def search (g : Graph) (path : List CycleStep) (explored : List Key) :
    List Key → Except Cycle (List Key)
  | [] => .ok explored
  | k :: ks =>
    match _found : g.providerOf k with
    | none => g.search path explored ks
    | some id =>
      if k ∈ path.map (·.provides) then
        .error ⟨g.locationOf id, pathFrom path k ++ [g.stepTo id k]⟩
      else if k ∈ explored then g.search path explored ks
      else match g.search (path ++ [g.stepTo id k]) explored (g.dependenciesOf id) with
        | .error cycle => .error cycle
        | .ok explored => g.search path (k :: explored) ks
termination_by keys => (unmarked g.providedKeys (path.map (·.provides)), keys.length)
decreasing_by
  · exact Prod.Lex.right _ (by simp)
  · exact Prod.Lex.right _ (by simp)
  · apply Prod.Lex.left
    have fresh : k ∉ path.map (·.provides) := by assumption
    have lt := unmarked_cons_lt (mem_providedKeys _found) fresh
    have same : unmarked g.providedKeys ((path ++ [g.stepTo id k]).map (·.provides)) =
        unmarked g.providedKeys (k :: path.map (·.provides)) := by
      unfold unmarked
      congr 1
      funext x
      simp [stepTo, or_comm]
    omega
  · exact Prod.Lex.right _ (by simp)

/-- Starts from the outputs, then from whatever any node waits for. -/
def searchStarts (g : Graph) : List Key :=
  g.outputs.map (·.key) ++ g.nodes.flatMap (·.dependencies)

def findCycle (g : Graph) : Option Cycle :=
  match g.search [] [] g.searchStarts with
  | .ok _ => none
  | .error cycle => some cycle

end Graph

end KeyFlow
