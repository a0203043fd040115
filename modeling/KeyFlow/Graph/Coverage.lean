import KeyFlow.Graph
import KeyFlow.Unmarked

/-!
Which keys are wanted, and what follows for providers, inputs and outputs. A key is wanted by a
flow output, by a task run for its effects, or by the provider of a wanted key.
-/

namespace KeyFlow

theorem mem_of_lookup {α β : Type} [DecidableEq α] {pairs : List (α × β)} {a : α} {b : β}
    (h : pairs.lookup a = some b) : a ∈ pairs.map (·.1) := by
  induction pairs with
  | nil => cases h
  | cons p ps ih =>
    rw [List.lookup_cons] at h
    split at h
    · rename_i same
      simp [eq_of_beq same]
    · exact List.mem_cons_of_mem _ (ih h)

namespace Graph

/-- The keys that some node provides. -/
def providedKeys (g : Graph) : List Key := g.providers.map (·.1)

theorem mem_providedKeys {g : Graph} {k : Key} {id : NodeId} (h : g.providerOf k = some id) :
    k ∈ g.providedKeys := mem_of_lookup h

def locationOf (g : Graph) (id : NodeId) : Location :=
  match g.nodes[id]? with
  | some n => n.location
  | none => g.location

/-- Breadth first from the queue, every key not in `seen` once, with the place that first wants
it. -/
def wantedFrom (g : Graph) (queue : List (Key × Location)) (seen : List Key) :
    List (Key × Location) :=
  match queue with
  | [] => []
  | (k, placed) :: rest =>
    if k ∈ seen then g.wantedFrom rest seen
    else match _found : g.providerOf k with
      | none => (k, placed) :: g.wantedFrom rest (k :: seen)
      | some id =>
        (k, placed) ::
          g.wantedFrom (rest ++ (g.dependenciesOf id).map (·, g.locationOf id)) (k :: seen)
termination_by (unmarked g.providedKeys seen, queue.length)
decreasing_by
  · apply Prod.Lex.right
    simp
  · rcases Nat.lt_or_eq_of_le (unmarked_cons_le g.providedKeys seen k) with lt | eq
    · exact Prod.Lex.left _ _ lt
    · rw [eq]
      apply Prod.Lex.right
      simp
  · exact Prod.Lex.left _ _ (unmarked_cons_lt (mem_providedKeys _found) (by assumption))

/-- Where the walk starts: the outputs, then what tasks run for their effects provide. -/
def demands (g : Graph) : List (Key × Location) :=
  g.outputs.map (fun o => (o.key, o.location)) ++
    (g.tasks.filter (·.invoke)).flatMap fun t =>
      match g.nodes[t.node]? with
      | some n => n.outputs.map (·, t.location)
      | none => []

def wanted (g : Graph) : List (Key × Location) := g.wantedFrom g.demands []

def missingProviders (g : Graph) : List Issue :=
  g.wanted.filterMap fun (k, placed) =>
    if (g.providerOf k).isNone && !g.isFlowInput k then some ⟨placed, .missingProvider k⟩ else none

/-- Wanted keys that the flow's caller supplies. -/
def consumedInputs (g : Graph) : List Key :=
  (g.wanted.map (·.1)).filter fun k => (g.providerOf k).isNone && g.isFlowInput k

/-- Declared inputs outside `settled`, each key at its first declaration. -/
def unusedAmong (settled : List Key) : List Declared → List Issue
  | [] => []
  | d :: ds =>
    if d.key ∈ settled then unusedAmong settled ds
    else ⟨d.location, .unusedInput d.key⟩ :: unusedAmong (d.key :: settled) ds

def unusedInputs (g : Graph) : List Issue := unusedAmong g.consumedInputs g.inputs

def unusedOutputs (g : Graph) : List Issue :=
  g.nodes.flatMap fun n =>
    (n.outputs.filter fun k => !k.isSentinel && (g.receiversOf k).isEmpty).map
      (⟨n.location, .unusedOutput ·⟩)

def coverageIssues (g : Graph) : List Issue :=
  g.unusedOutputs ++ g.missingProviders ++ g.unusedInputs

end Graph

end KeyFlow
