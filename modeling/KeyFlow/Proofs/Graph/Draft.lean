import KeyFlow.Proofs.Graph.Declared
import KeyFlow.Proofs.Lookup

/-!
Drafts in which nothing was found wrong. Every step of the making is then a plain entry, and what
has to hold for that is said of the nodes as a list: their outputs are all different, and none of
them is an input of the flow.
-/

namespace KeyFlow

namespace Graph

/-- The graph with one more node. -/
def withNode (g : Graph) (n : Node) : Graph :=
  { g with
    receivers := g.receivers ++ n.dependencies.map (·, .node g.nodes.length)
    providers := g.providers ++ n.outputs.map (·, g.nodes.length)
    nodes := g.nodes ++ [n] }

def withNodes (g : Graph) (ns : List Node) : Graph := ns.foldl withNode g

/-- The keys can all be provided by one more node. -/
def Fresh (g : Graph) (ks : List Key) : Prop :=
  ks.Nodup ∧ ∀ k ∈ ks, g.inputAt k = none ∧ g.providerOf k = none

/-- The nodes can be entered one after another. -/
def FreshNodes : Graph → List Node → Prop
  | _, [] => True
  | g, n :: ns => g.Fresh n.outputs ∧ FreshNodes (g.withNode n) ns

theorem fresh_congr {g g' : Graph} (inputs : g'.flowInputs = g.flowInputs)
    (providers : g'.providers = g.providers) (ks : List Key) : g'.Fresh ks ↔ g.Fresh ks := by
  rw [Fresh, Fresh]
  simp only [inputAt, providerOf, inputs, providers]

theorem freshNodes_congr {g g' : Graph} (inputs : g'.flowInputs = g.flowInputs)
    (providers : g'.providers = g.providers) (nodes : g'.nodes = g.nodes) (ns : List Node) :
    g'.FreshNodes ns ↔ g.FreshNodes ns := by
  induction ns generalizing g g' with
  | nil => rfl
  | cons n ns ih =>
    refine and_congr (fresh_congr inputs providers _) (ih inputs ?_ ?_)
    · simp only [withNode, providers, nodes]
    · simp only [withNode, nodes]

theorem freshNodes_append {g : Graph} (ns ms : List Node) :
    g.FreshNodes (ns ++ ms) ↔ g.FreshNodes ns ∧ (g.withNodes ns).FreshNodes ms := by
  induction ns generalizing g with
  | nil => exact ⟨fun fresh => ⟨trivial, fresh⟩, And.right⟩
  | cons n ns ih => exact (and_congr Iff.rfl ih).trans and_assoc.symm

/-- Nodes can be entered just if no output has a provider, is an input, or stands twice. -/
theorem freshNodes_iff {g : Graph} (once : (g.providers.map (·.1)).Nodup) (ns : List Node) :
    g.FreshNodes ns ↔
      (g.providers.map (·.1) ++ ns.flatMap (·.outputs)).Nodup ∧
        ∀ k ∈ ns.flatMap (·.outputs), g.inputAt k = none := by
  induction ns generalizing g with
  | nil => simpa [FreshNodes] using once
  | cons n ns ih =>
    have keys : (g.withNode n).providers.map (·.1) = g.providers.map (·.1) ++ n.outputs := by
      simp [withNode, Function.comp_def]
    have fresh : g.Fresh n.outputs ↔
        (g.providers.map (·.1) ++ n.outputs).Nodup ∧ ∀ k ∈ n.outputs, g.inputAt k = none := by
      rw [Fresh, List.nodup_append]
      constructor
      · rintro ⟨nodup, h⟩
        refine ⟨⟨once, nodup, fun a mem b mem' => ?_⟩, fun k mem => (h k mem).1⟩
        rintro rfl
        exact lookup_eq_none.mp (h a mem').2 mem
      · rintro ⟨⟨_, nodup, apart⟩, inputs⟩
        refine ⟨nodup, fun k mem => ⟨inputs k mem, lookup_eq_none.mpr fun mem' => ?_⟩⟩
        exact apart k mem' k mem rfl
    rw [FreshNodes, List.flatMap_cons]
    constructor
    · rintro ⟨first, rest⟩
      obtain ⟨nodup, inputs⟩ := fresh.mp first
      obtain ⟨nodup', inputs'⟩ := (ih (keys ▸ nodup)).mp rest
      rw [keys, List.append_assoc] at nodup'
      refine ⟨nodup', fun k mem => ?_⟩
      exact (List.mem_append.mp mem).elim (inputs k) (inputs' k)
    · rintro ⟨nodup, inputs⟩
      rw [← List.append_assoc] at nodup
      have first := nodup.of_append_left
      refine ⟨fresh.mpr ⟨first, fun k mem => inputs k (List.mem_append_left _ mem)⟩, ?_⟩
      refine (ih (keys ▸ first)).mpr ⟨?_, fun k mem => inputs k (List.mem_append_right _ mem)⟩
      rw [keys]
      exact nodup

/-! ## What the entries of a graph are made of -/

/-- Providers and receivers are those of the nodes and outputs of the graph. -/
structure Laid (g : Graph) : Prop where
  providers : g.providers = g.nodes.zipIdx.flatMap fun n => n.1.outputs.map (·, n.2)
  receivers : g.receivers = g.outputs.map (·.key, .flowOutput) ++
    g.nodes.zipIdx.flatMap fun n => n.1.dependencies.map (·, .node n.2)

theorem Laid.withNode {g : Graph} (laid : g.Laid) (n : Node) : (g.withNode n).Laid where
  providers := by
    simp [Graph.withNode, laid.providers, List.zipIdx_append]
  receivers := by
    simp [Graph.withNode, laid.receivers, List.zipIdx_append]

end Graph

namespace Draft

/-! ## Nodes -/

theorem provide_fresh {d : Draft} {location : Location} {ks : List Key}
    (fresh : d.graph.Fresh ks) :
    d.provide location ks = .ok { d with graph :=
      { d.graph with providers := d.graph.providers ++ ks.map (·, d.graph.nodes.length) } } := by
  induction ks generalizing d with
  | nil => simp [provide]
  | cons k ks ih =>
    obtain ⟨nodup, h⟩ := fresh
    rw [List.nodup_cons] at nodup
    obtain ⟨input, provider⟩ := h k (List.mem_cons_self ..)
    rw [provide, input, provider]
    simp only
    rw [ih]
    · simp
    · refine ⟨nodup.2, fun k' mem => ?_⟩
      obtain ⟨input', provider'⟩ := h k' (List.mem_cons_of_mem _ mem)
      refine ⟨input', ?_⟩
      have ne : k' ≠ k := fun same => nodup.1 (same ▸ mem)
      rw [Graph.providerOf, List.lookup_append, ← Graph.providerOf, provider']
      simp [ne]

theorem fresh_of_provide {d d' : Draft} {location : Location} {ks : List Key}
    (h : d.provide location ks = .ok d') (clean : d'.issues = []) :
    d.issues = [] ∧ d.graph.Fresh ks := by
  induction ks generalizing d with
  | nil =>
    cases h
    exact ⟨clean, List.nodup_nil, by simp⟩
  | cons k ks ih =>
    rw [provide] at h
    split at h
    · exact absurd (ih h).1 (by simp)
    · rename_i input provider
      obtain ⟨issues, nodup, fresh⟩ := ih h
      have later {k' : Key} (mem : k' ∈ ks) :
          k' ≠ k ∧ d.graph.inputAt k' = none ∧ d.graph.providerOf k' = none := by
        obtain ⟨input', provider'⟩ := fresh k' mem
        rw [Graph.providerOf, List.lookup_append, Option.or_eq_none_iff] at provider'
        exact ⟨by simpa using provider'.2, input', provider'.1⟩
      refine ⟨issues, List.nodup_cons.mpr ⟨fun mem => (later mem).1 rfl, nodup⟩, fun k' mem => ?_⟩
      rcases List.mem_cons.mp mem with rfl | mem
      · exact ⟨input, provider⟩
      · exact (later mem).2
    · split at h
      · cases h
      · exact absurd (ih h).1 (by simp)

/-- The node to come has signed up for what it waits for. -/
def signedUp (d : Draft) (n : Node) : Draft :=
  { d with graph := { d.graph with
    receivers := d.graph.receivers ++ n.dependencies.map (·, .node d.graph.nodes.length) } }

theorem addNode_eq (d : Draft) (n : Node) :
    d.addNode n = ((d.signedUp n).provide n.location n.outputs).map fun d =>
      { d with graph := { d.graph with nodes := d.graph.nodes ++ [n] } } := by
  show ((d.signedUp n).provide n.location n.outputs).bind _ = _
  cases (d.signedUp n).provide n.location n.outputs <;> rfl

/-- The draft with one more node, if that is entered without an issue. -/
theorem addNode_clean {d d' : Draft} {n : Node} :
    (d.addNode n = .ok d' ∧ d'.issues = []) ↔
      d.issues = [] ∧ d.graph.Fresh n.outputs ∧ d' = { d with graph := d.graph.withNode n } := by
  have same : (d.signedUp n).graph.Fresh n.outputs ↔ d.graph.Fresh n.outputs :=
    Graph.fresh_congr rfl rfl _
  rw [addNode_eq]
  constructor
  · rintro ⟨h, clean⟩
    cases provided : (d.signedUp n).provide n.location n.outputs with
    | error f =>
      rw [provided] at h
      cases h
    | ok d₁ =>
      rw [provided] at h
      cases h
      obtain ⟨issues, fresh⟩ := fresh_of_provide provided clean
      rw [provide_fresh fresh] at provided
      cases provided
      exact ⟨issues, same.mp fresh, rfl⟩
  · rintro ⟨issues, fresh, rfl⟩
    rw [provide_fresh (same.mpr fresh)]
    exact ⟨rfl, issues⟩

/-- Enters nodes one after another. -/
def addNodes : Draft → List Node → Except Fault Draft
  | d, [] => .ok d
  | d, n :: ns => do addNodes (← d.addNode n) ns

theorem addNodes_clean {d d' : Draft} {ns : List Node} :
    (d.addNodes ns = .ok d' ∧ d'.issues = []) ↔
      d.issues = [] ∧ d.graph.FreshNodes ns ∧ d' = { d with graph := d.graph.withNodes ns } := by
  induction ns generalizing d with
  | nil =>
    constructor
    · rintro ⟨h, clean⟩
      cases h
      exact ⟨clean, trivial, rfl⟩
    · rintro ⟨clean, _, rfl⟩
      exact ⟨rfl, clean⟩
  | cons n ns ih =>
    rw [addNodes]
    constructor
    · rintro ⟨h, clean⟩
      cases added : d.addNode n with
      | error f =>
        rw [added] at h
        cases h
      | ok d₁ =>
        rw [added] at h
        obtain ⟨clean₁, fresh, eq⟩ := ih.mp ⟨h, clean⟩
        obtain ⟨clean₀, first, rfl⟩ := addNode_clean.mp ⟨added, clean₁⟩
        exact ⟨clean₀, ⟨first, fresh⟩, eq⟩
    · rintro ⟨clean, ⟨first, fresh⟩, eq⟩
      obtain ⟨added, clean₁⟩ := addNode_clean.mpr ⟨clean, first, rfl⟩
      rw [added]
      exact ih.mpr ⟨clean₁, fresh, eq⟩

end Draft

end KeyFlow
