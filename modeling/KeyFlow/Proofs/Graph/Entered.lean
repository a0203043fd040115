import KeyFlow.Graph.Coverage
import KeyFlow.Proofs.Graph.Drawn

/-!
What a declaration leaves in a graph in the making, whatever was found wrong so far. Of the keys of
a node those that are free are provided from then on, each other one is an issue, and the making
ends in a fault just where a free key stands twice: its earlier provider is the node to come.
-/

namespace KeyFlow

namespace Graph

/-- Whoever provides a key or runs a task is a node of the graph. -/
structure InRange (g : Graph) : Prop where
  providers : ∀ p ∈ g.providers, p.2 < g.nodes.length
  tasks : ∀ t ∈ g.tasks, t.node < g.nodes.length

theorem InRange.providerOf {g : Graph} (inRange : g.InRange) {k : Key} {id : NodeId}
    (found : g.providerOf k = some id) : id < g.nodes.length :=
  inRange.providers _ (mem_pairs_of_lookup found)

/-- The key is no input of the flow and has no provider. -/
def Free (g : Graph) (k : Key) : Prop := g.inputAt k = none ∧ g.providerOf k = none

instance (g : Graph) (k : Key) : Decidable (g.Free k) := inferInstanceAs (Decidable (_ ∧ _))

/-- What is wrong with providing the key at this place. -/
def clash (g : Graph) (location : Location) (k : Key) : Option Issue :=
  match g.inputAt k, g.providerOf k with
  | some declared, _ => some ⟨location, .providesInput k declared⟩
  | none, some earlier => some ⟨location, .duplicateProvider k (g.locationOf earlier)⟩
  | none, none => none

variable {g : Graph} {location : Location} {k : Key}

theorem clash_eq_none : g.clash location k = none ↔ g.Free k := by
  unfold clash Free
  cases g.inputAt k <;> cases g.providerOf k <;> simp

theorem clash_cases {i : Issue} (clashes : g.clash location k = some i) :
    ∃ l, i = ⟨location, .providesInput k l⟩ ∨ i = ⟨location, .duplicateProvider k l⟩ := by
  unfold clash at clashes
  split at clashes
  · cases clashes
    exact ⟨_, .inl rfl⟩
  · cases clashes
    exact ⟨_, .inr rfl⟩
  · cases clashes

/-- The graph while its next node provides keys. -/
def providing (g : Graph) (ks : List Key) : Graph :=
  { g with providers := g.providers ++ ks.map (·, g.nodes.length) }

theorem providerOf_providing (ks : List Key) : (g.providing ks).providerOf k =
    (g.providerOf k).or (if k ∈ ks then some g.nodes.length else none) := by
  rw [providing, providerOf, List.lookup_append, lookup_const]
  rfl

theorem free_providing (ks : List Key) : (g.providing ks).Free k ↔ g.Free k ∧ k ∉ ks := by
  rw [Free, providerOf_providing, Option.or_eq_none_iff, Free, and_assoc]
  refine and_congr Iff.rfl (and_congr Iff.rfl ?_)
  split <;> simp [*]

end Graph

namespace Draft

variable {g : Graph}

/-- One key after another: `done` are those that the node provides already. -/
theorem provide_providing (inRange : g.InRange) {done : List Key} (once : done.Nodup)
    (free : ∀ k ∈ done, g.Free k) (issues : List Issue) (location : Location) (ks : List Key) :
    provide location ⟨g.providing done, issues⟩ ks =
      if (done ++ ks.filter (g.Free ·)).Nodup then
        .ok ⟨g.providing (done ++ ks.filter (g.Free ·)),
          issues ++ ks.filterMap (g.clash location)⟩
      else .error (.missingNode g.nodes.length) := by
  induction ks generalizing done issues with
  | nil => simp [provide, once]
  | cons k ks ih =>
    have input : (g.providing done).inputAt k = g.inputAt k := rfl
    rw [provide, input, Graph.providerOf_providing]
    cases inputAt : g.inputAt k with
    | some declared =>
      have taken : ¬ g.Free k := fun free => by simp [free.1] at inputAt
      have clashes : g.clash location k = some ⟨location, .providesInput k declared⟩ := by
        simp [Graph.clash, inputAt]
      rw [List.filter_cons_of_neg (by simpa using taken), List.filterMap_cons, clashes]
      exact (ih once free _).trans (by rw [List.append_assoc, List.singleton_append])
    | none =>
      cases provider : g.providerOf k with
      | some earlier =>
        have taken : ¬ g.Free k := fun free => by simp [free.2] at provider
        have lt := inRange.providerOf provider
        have found := List.getElem?_eq_getElem lt
        have clashes : g.clash location k =
            some ⟨location, .duplicateProvider k g.nodes[earlier].location⟩ := by
          simp [Graph.clash, inputAt, provider, Graph.locationOf, found]
        rw [List.filter_cons_of_neg (by simpa using taken), List.filterMap_cons, clashes]
        have found' : (g.providing done).nodes[earlier]? = some g.nodes[earlier] := found
        simp only [Option.some_or, found']
        exact (ih once free _).trans (by rw [List.append_assoc, List.singleton_append])
      | none =>
        have here : g.Free k := ⟨inputAt, provider⟩
        have clean : g.clash location k = none := Graph.clash_eq_none.mpr here
        rw [List.filter_cons_of_pos (by simpa using here), List.filterMap_cons, clean]
        by_cases again : k ∈ done
        · have missing : (g.providing done).nodes[g.nodes.length]? = none :=
            List.getElem?_eq_none (Nat.le_refl _)
          have twice : ¬ (done ++ k :: ks.filter (g.Free ·)).Nodup := fun nodup =>
            List.disjoint_of_nodup_append nodup again (List.mem_cons_self ..)
          rw [if_pos again, if_neg twice]
          simp only [Option.none_or, missing]
        · have once' : (done ++ [k]).Nodup := by
            rw [List.nodup_append_comm]
            exact List.nodup_cons.mpr ⟨again, once⟩
          have rest := ih once'
            (List.forall_mem_append.mpr ⟨free, List.forall_mem_singleton.mpr here⟩) issues
          rw [List.append_assoc, List.singleton_append] at rest
          rw [if_neg again, ← rest, Graph.providing, Graph.providing, List.map_append,
            ← List.append_assoc]
          rfl

theorem provide_eq {d : Draft} (inRange : d.graph.InRange) (location : Location) (ks : List Key) :
    d.provide location ks = if (ks.filter (d.graph.Free ·)).Nodup then
      .ok ⟨d.graph.providing (ks.filter (d.graph.Free ·)),
        d.issues ++ ks.filterMap (d.graph.clash location)⟩
    else .error (.missingNode d.graph.nodes.length) := by
  have all := provide_providing inRange List.nodup_nil (by simp) d.issues location ks
  have noIssues : d.graph.providing [] = d.graph := by simp [Graph.providing]
  rw [noIssues] at all
  exact all

/-! ## Nodes -/

/-- The draft with one more node. -/
def withNode (d : Draft) (n : Node) : Draft where
  graph := { d.graph.providing (n.outputs.filter (d.graph.Free ·)) with
    receivers := d.graph.receivers ++ n.dependencies.map (·, .node d.graph.nodes.length)
    nodes := d.graph.nodes ++ [n] }
  issues := d.issues ++ n.outputs.filterMap (d.graph.clash n.location)

theorem addNode_of_inRange {d : Draft} (inRange : d.graph.InRange) (n : Node) :
    d.addNode n = if (n.outputs.filter (d.graph.Free ·)).Nodup then .ok (d.withNode n)
      else .error (.missingNode d.graph.nodes.length) := by
  have inRange' : (d.signedUp n).graph.InRange := ⟨inRange.providers, inRange.tasks⟩
  rw [addNode_eq, provide_eq inRange']
  show Except.map _ (if (n.outputs.filter (d.graph.Free ·)).Nodup then _ else _) = _
  split <;> rfl

theorem withNode_inRange {d : Draft} (inRange : d.graph.InRange) (n : Node) :
    (d.withNode n).graph.InRange := by
  have length : (d.withNode n).graph.nodes.length = d.graph.nodes.length + 1 := List.length_append
  constructor <;> rw [length]
  · refine List.forall_mem_append.mpr ⟨fun p mem => ?_, List.forall_mem_map.mpr fun _ _ => ?_⟩
    · exact Nat.lt_succ_of_lt (inRange.providers p mem)
    · exact Nat.lt_succ_self _
  · exact fun t mem => Nat.lt_succ_of_lt (inRange.tasks t mem)

theorem free_withNode {d : Draft} {n : Node} {k : Key} :
    (d.withNode n).graph.Free k ↔ d.graph.Free k ∧ k ∉ n.outputs := by
  have provided : (d.withNode n).graph.Free k ↔
      d.graph.Free k ∧ k ∉ n.outputs.filter (d.graph.Free ·) :=
    Graph.free_providing (g := d.graph) (n.outputs.filter (d.graph.Free ·))
  rw [provided]
  refine and_congr_right fun free => not_congr ?_
  rw [List.mem_filter, and_iff_left (decide_eq_true free)]

def withNodes (d : Draft) (ns : List Node) : Draft := ns.foldl withNode d

theorem withNodes_nodes (d : Draft) (ns : List Node) :
    (d.withNodes ns).graph.nodes = d.graph.nodes ++ ns := by
  induction ns generalizing d with
  | nil => exact (List.append_nil _).symm
  | cons n ns ih =>
    rw [withNodes, List.foldl_cons, ← withNodes, ih, withNode, List.append_assoc,
      List.singleton_append]

theorem withNodes_inRange {d : Draft} (inRange : d.graph.InRange) (ns : List Node) :
    (d.withNodes ns).graph.InRange := by
  induction ns generalizing d with
  | nil => exact inRange
  | cons n ns ih => exact ih (withNode_inRange inRange n)

theorem free_withNodes {d : Draft} {ns : List Node} {k : Key} :
    (d.withNodes ns).graph.Free k ↔ d.graph.Free k ∧ k ∉ ns.flatMap (·.outputs) := by
  induction ns generalizing d with
  | nil => simp [withNodes]
  | cons n ns ih =>
    rw [withNodes, List.foldl_cons, ← withNodes, ih, free_withNode, List.flatMap_cons,
      List.mem_append, not_or, and_assoc]

/-- More nodes add issues about keys only. -/
theorem withNodes_issues (d : Draft) (ns : List Node) : ∃ more,
    (d.withNodes ns).issues = d.issues ++ more ∧
      ∀ i ∈ more, i.problem.kind = .duplicateProvider := by
  induction ns generalizing d with
  | nil => exact ⟨[], by simp [withNodes], by simp⟩
  | cons n ns ih =>
    obtain ⟨more, issues, kind⟩ := ih (d.withNode n)
    refine ⟨n.outputs.filterMap (d.graph.clash n.location) ++ more, ?_, ?_⟩
    · rw [withNodes, List.foldl_cons, ← withNodes, issues, withNode, List.append_assoc]
    · refine List.forall_mem_append.mpr ⟨fun i mem => ?_, kind⟩
      obtain ⟨k, _, clashes⟩ := List.mem_filterMap.mp mem
      obtain ⟨l, rfl | rfl⟩ := Graph.clash_cases clashes <;> rfl

/-! ## Tasks -/

/-- The nodes of a task that is the one with this index among those entered. -/
def nodesOf (index ordinal : Nat) (t : TaskDecl) : List Node :=
  taskNode index ordinal t :: (t.predicate.map (gateNode index ordinal)).toList

/-- The draft with one more task. -/
def withTask (d : Draft) (ordinal : Nat) (t : TaskDecl) : Draft :=
  let entered := d.withNodes (nodesOf d.graph.tasks.length ordinal t)
  { entered with graph := { entered.graph with
    tasks := entered.graph.tasks ++ [taskOf d.graph.nodes.length ordinal t] } }

theorem withTask_inRange {d : Draft} (inRange : d.graph.InRange) (ordinal : Nat) (t : TaskDecl) :
    (d.withTask ordinal t).graph.InRange where
  providers := (withNodes_inRange inRange _).providers
  tasks := by
    refine List.forall_mem_append.mpr ⟨(withNodes_inRange inRange _).tasks,
      List.forall_mem_singleton.mpr ?_⟩
    show d.graph.nodes.length <
      (d.withNodes (nodesOf d.graph.tasks.length ordinal t)).graph.nodes.length
    rw [withNodes_nodes, List.length_append, nodesOf, List.length_cons]
    omega

theorem filter_taskNode_nodup {t : TaskDecl} (declared : t.WellDeclared) (p : Key → Bool)
    (index ordinal : Nat) : ((taskNode index ordinal t).outputs.filter p).Nodup ↔
      (t.signature.outputs.filter p).Nodup := by
  by_cases invoke : t.invoke = true
  · rw [taskNode, if_pos invoke, declared.invoke.mpr invoke]
    exact iff_of_true ((List.nodup_singleton _).filter _) List.nodup_nil
  · rw [taskNode, if_neg invoke]

/-- A task is entered unless it lists a free key twice. -/
theorem enter_of_inRange {d : Draft} (inRange : d.graph.InRange) (ordinal : Nat) {t : TaskDecl}
    (declared : t.WellDeclared) :
    d.enter ordinal t = if (t.signature.outputs.filter (d.graph.Free ·)).Nodup then
      .ok (d.withTask ordinal t) else .error (.missingNode d.graph.nodes.length) := by
  have repeats := filter_taskNode_nodup declared (d.graph.Free ·) d.graph.tasks.length ordinal
  have first := addNode_of_inRange inRange (taskNode d.graph.tasks.length ordinal t)
  rw [enter_eq, addNodes]
  by_cases once : (t.signature.outputs.filter (d.graph.Free ·)).Nodup
  · rw [if_pos (repeats.mpr once)] at first
    rw [if_pos once, first, withTask, nodesOf]
    cases t.predicate with
    | none => rfl
    | some p =>
      have single (q : Key → Bool) :
          ((gateNode d.graph.tasks.length ordinal p).outputs.filter q).Nodup :=
        (List.nodup_singleton _).filter q
      have second := addNode_of_inRange
        (withNode_inRange inRange (taskNode d.graph.tasks.length ordinal t))
        (gateNode d.graph.tasks.length ordinal p)
      rw [if_pos (single _)] at second
      show Except.map _ (Except.bind (addNode _ _) _) = _
      rw [second]
      rfl
  · rw [if_neg (mt repeats.mp once)] at first
    rw [if_neg once, first]
    rfl

theorem addTask_of_declared (d : Draft) (ordinal : Nat) {t : TaskDecl}
    (declared : t.WellDeclared) : d.addTask ordinal t = d.enter ordinal t := by
  rw [addTask, t.issues_eq_nil.mpr declared]

theorem addTask_of_malformed (d : Draft) (ordinal : Nat) {t : TaskDecl}
    (malformed : ¬ t.WellDeclared) :
    d.addTask ordinal t = .ok { d with issues := d.issues ++ t.issues } := by
  rw [addTask]
  split
  · rename_i noIssues
    exact absurd (t.issues_eq_nil.mp noIssues) malformed
  · rfl

/-- What a declaration leaves where it ends in no fault. -/
theorem addTask_cases {d d' : Draft} (inRange : d.graph.InRange) {ordinal : Nat} {t : TaskDecl}
    (added : d.addTask ordinal t = .ok d') :
    (¬ t.WellDeclared ∧ d' = { d with issues := d.issues ++ t.issues }) ∨
      (t.WellDeclared ∧ (t.signature.outputs.filter (d.graph.Free ·)).Nodup ∧
        d' = d.withTask ordinal t) := by
  by_cases declared : t.WellDeclared
  · rw [addTask_of_declared d ordinal declared, enter_of_inRange inRange ordinal declared] at added
    split at added
    · rename_i once
      cases added
      exact .inr ⟨declared, once, rfl⟩
    · cases added
  · rw [addTask_of_malformed d ordinal declared] at added
    cases added
    exact .inl ⟨declared, rfl⟩

end Draft

end KeyFlow
