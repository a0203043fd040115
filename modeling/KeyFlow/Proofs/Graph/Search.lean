import Mathlib.Logic.Relation
import Mathlib.Order.WellFounded
import KeyFlow.Graph.Cycle

/-!
What the two walks over the keys of a graph find. The search for a cycle finds none just where no
key stands below itself, and the walk from the demands meets just the keys that are wanted.
-/

namespace KeyFlow

namespace Graph

variable {g : Graph}

/-- The left key is waited for by the provider of the right one. -/
def Below (g : Graph) (k' k : Key) : Prop :=
  ∃ id, g.providerOf k = some id ∧ k' ∈ g.dependenciesOf id

theorem not_below_of_none {k k' : Key} (h : g.providerOf k = none) : ¬ g.Below k' k := by
  rintro ⟨id, found, _⟩
  rw [h] at found
  cases found

theorem below_iff {k k' : Key} {id : NodeId} (h : g.providerOf k = some id) :
    g.Below k' k ↔ k' ∈ g.dependenciesOf id := by
  constructor
  · rintro ⟨id', found, mem⟩
    rw [h, Option.some.injEq] at found
    exact found ▸ mem
  · intro mem
    exact ⟨id, h, mem⟩

/-! ## Cycles -/

/-- Below a key that was searched to the end nothing goes on for ever. -/
theorem search_ok {path : List CycleStep} {explored explored' keys : List Key}
    (h : g.search path explored keys = .ok explored') (done : ∀ k ∈ explored, Acc g.Below k) :
    (∀ k ∈ explored', Acc g.Below k) ∧ ∀ k ∈ keys, Acc g.Below k := by
  fun_induction search g path explored keys generalizing explored' with
  | case1 path explored =>
    cases h
    exact ⟨done, by simp⟩
  | case2 path explored k ks absent ih =>
    obtain ⟨more, rest⟩ := ih h done
    refine ⟨more, List.forall_mem_cons.mpr ⟨?_, rest⟩⟩
    exact ⟨_, fun k' below => absurd below (not_below_of_none absent)⟩
  | case3 => cases h
  | case4 path explored k ks id found off known ih =>
    obtain ⟨more, rest⟩ := ih h done
    exact ⟨more, List.forall_mem_cons.mpr ⟨done k known, rest⟩⟩
  | case5 => cases h
  | case6 path explored k ks id found off new explored₁ inner ih₁ ih₂ =>
    obtain ⟨done₁, below⟩ := ih₁ inner done
    have here : Acc g.Below k := ⟨_, fun k' h => below k' ((below_iff found).mp h)⟩
    obtain ⟨more, rest⟩ := ih₂ h (List.forall_mem_cons.mpr ⟨here, done₁⟩)
    exact ⟨more, List.forall_mem_cons.mpr ⟨here, rest⟩⟩

/-- The path of a search leads down to the keys that it is at, so a key met again is below
itself. -/
theorem search_error {path : List CycleStep} {explored keys : List Key} {cycle : Cycle}
    (h : g.search path explored keys = .error cycle)
    (under : ∀ k ∈ keys, ∀ p ∈ path.map (·.provides), Relation.TransGen g.Below k p) :
    ∃ k, Relation.TransGen g.Below k k := by
  fun_induction search g path explored keys with
  | case1 => cases h
  | case2 path explored k ks absent ih => exact ih h (List.forall_mem_cons.mp under).2
  | case3 path explored k ks id found on => exact ⟨k, under k (List.mem_cons_self ..) k on⟩
  | case4 path explored k ks id found off known ih => exact ih h (List.forall_mem_cons.mp under).2
  | case5 path explored k ks id found off new cycle₁ inner ih =>
    cases h
    refine ih inner fun k' dependency p onPath => ?_
    have below : g.Below k' k := (below_iff found).mpr dependency
    rw [List.map_append, List.mem_append] at onPath
    rcases onPath with before | last
    · exact .trans (.single below) (under k (List.mem_cons_self ..) p before)
    · rw [List.mem_singleton.mp last]
      exact .single below
  | case6 path explored k ks id found off new explored₁ inner ih₁ ih₂ =>
    exact ih₂ h (List.forall_mem_cons.mp under).2

theorem acc_not_below_self {α : Type} {r : α → α → Prop} {a : α} (acc : Acc r a) :
    ¬ Relation.TransGen r a a := by
  induction acc.transGen with
  | intro a _ ih => exact fun cycle => ih a cycle acc cycle

theorem mem_starts_of_below {k k' : Key} (below : g.Below k' k) : k' ∈ g.searchStarts := by
  obtain ⟨id, _, mem⟩ := below
  rw [dependenciesOf] at mem
  split at mem
  · rename_i n placed
    exact List.mem_append_right _ (List.mem_flatMap.mpr ⟨n, List.mem_of_getElem? placed, mem⟩)
  · cases mem

/-- A graph has no cycle just where no key stands below itself. -/
theorem findCycle_eq_none_iff (g : Graph) :
    g.findCycle = none ↔ ∀ k, ¬ Relation.TransGen g.Below k k := by
  unfold findCycle
  cases found : g.search [] [] g.searchStarts with
  | ok explored =>
    refine ⟨fun _ k cycle => ?_, fun _ => rfl⟩
    obtain ⟨k', below, _⟩ := Relation.TransGen.head'_iff.mp cycle
    have acc := (search_ok found (by simp)).2 k (mem_starts_of_below below)
    exact acc_not_below_self acc cycle
  | error cycle =>
    refine ⟨nofun, fun acyclic => ?_⟩
    obtain ⟨k, loop⟩ := search_error found (by simp)
    exact absurd loop (acyclic k)

/-! ## Wanted keys -/

/-- The keys that a run of the graph is wanted for, and what follows from them. -/
inductive Wanted (g : Graph) : Key → Prop where
  | demanded {k : Key} (mem : k ∈ g.demands.map (·.1)) : Wanted g k
  | follows {k k' : Key} (wanted : Wanted g k) (below : g.Below k' k) : Wanted g k'

/-- What holds of the keys in the queue, each with its place, and passes to those that are below
them holds of all that the walk meets. -/
theorem wantedFrom_sound {P : Key → Location → Prop}
    (closed : ∀ k placed id, P k placed → g.providerOf k = some id →
      ∀ k' ∈ g.dependenciesOf id, P k' (g.locationOf id))
    {queue : List (Key × Location)} {seen : List Key} (start : ∀ x ∈ queue, P x.1 x.2) :
    ∀ x ∈ g.wantedFrom queue seen, P x.1 x.2 := by
  fun_induction wantedFrom g queue seen with
  | case1 => simp
  | case2 seen k placed rest known ih => exact ih (List.forall_mem_cons.mp start).2
  | case3 seen k placed rest new absent ih =>
    obtain ⟨here, later⟩ := List.forall_mem_cons.mp start
    exact List.forall_mem_cons.mpr ⟨here, ih later⟩
  | case4 seen k placed rest new id found ih =>
    obtain ⟨here, later⟩ := List.forall_mem_cons.mp start
    refine List.forall_mem_cons.mpr ⟨here, ih (List.forall_mem_append.mpr ⟨later, ?_⟩)⟩
    exact List.forall_mem_map.mpr (closed k placed id here found)

/-- All that is below a key that was met is met, or waits in the queue. -/
def Followed (g : Graph) (seen queue : List Key) : Prop :=
  ∀ k ∈ seen, ∀ k', g.Below k' k → k' ∈ seen ∨ k' ∈ queue

/-- The key at the head of the queue was met before. -/
theorem Followed.skip {seen queue : List Key} {k : Key} (followed : g.Followed seen (k :: queue))
    (known : k ∈ seen) : g.Followed seen queue := by
  intro x mem k' below
  rcases followed x mem k' below with met | queued
  · exact .inl met
  · rcases List.mem_cons.mp queued with rfl | later
    · exact .inl known
    · exact .inr later

/-- The key at the head of the queue is met, and what is below it put at the end. -/
theorem Followed.meet {seen queue : List Key} {k : Key}
    (followed : g.Followed seen (k :: queue)) (more : List Key)
    (all : ∀ k', g.Below k' k → k' ∈ more) : g.Followed (k :: seen) (queue ++ more) := by
  intro x mem k' below
  rcases List.mem_cons.mp mem with rfl | met
  · exact .inr (List.mem_append_right _ (all k' below))
  · rcases followed x met k' below with met' | queued
    · exact .inl (List.mem_cons_of_mem _ met')
    · rcases List.mem_cons.mp queued with rfl | later
      · exact .inl (List.mem_cons_self ..)
      · exact .inr (List.mem_append_left _ later)

/-- The walk leaves out nothing: all that it has met or that waits it meets, and what is below. -/
theorem wantedFrom_complete (queue : List (Key × Location)) (seen : List Key)
    (followed : g.Followed seen (queue.map (·.1))) :
    (∀ k ∈ seen ++ queue.map (·.1), k ∈ seen ++ (g.wantedFrom queue seen).map (·.1)) ∧
      g.Followed (seen ++ (g.wantedFrom queue seen).map (·.1)) [] := by
  have moved (k x : Key) (seen met : List Key) : x ∈ seen ++ k :: met ↔ x ∈ k :: seen ++ met := by
    simp only [List.mem_append, List.mem_cons]
    tauto
  fun_induction wantedFrom g queue seen with
  | case1 seen =>
    rw [List.map_nil, List.append_nil]
    exact ⟨fun k mem => mem, followed⟩
  | case2 seen k placed rest known ih =>
    obtain ⟨reached, closure⟩ := ih (followed.skip known)
    refine ⟨fun x mem => reached x ?_, closure⟩
    rcases List.mem_append.mp mem with met | queued
    · exact List.mem_append_left _ met
    · rcases List.mem_cons.mp queued with rfl | later
      · exact List.mem_append_left _ known
      · exact List.mem_append_right _ later
  | case3 seen k placed rest new absent ih =>
    have met := followed.meet [] fun k' below => absurd below (not_below_of_none absent)
    rw [List.append_nil] at met
    obtain ⟨reached, closure⟩ := ih met
    simp only [Followed, List.map_cons, moved] at closure ⊢
    exact ⟨reached, closure⟩
  | case4 seen k placed rest new id found ih =>
    have met := followed.meet (g.dependenciesOf id) fun k' below => (below_iff found).mp below
    obtain ⟨reached, closure⟩ := ih (by simpa [Function.comp_def] using met)
    simp only [Followed, List.map_cons, moved] at closure ⊢
    refine ⟨fun x mem => reached x ?_, closure⟩
    rw [List.map_append, ← List.append_assoc]
    exact List.mem_append_left _ mem

theorem mem_wanted_iff (g : Graph) (k : Key) : k ∈ g.wanted.map (·.1) ↔ g.Wanted k := by
  constructor
  · intro mem
    obtain ⟨x, met, rfl⟩ := List.mem_map.mp mem
    refine wantedFrom_sound (P := fun k _ => g.Wanted k) (fun k placed id wanted found k' mem => ?_)
      (fun x mem => .demanded (List.mem_map_of_mem mem)) x met
    exact .follows wanted ((below_iff found).mpr mem)
  · intro wanted
    have nothing : g.Followed [] (g.demands.map (·.1)) := fun k mem => by cases mem
    obtain ⟨reached, closure⟩ := wantedFrom_complete g.demands [] nothing
    induction wanted with
    | demanded mem => exact reached _ mem
    | follows _ below ih => exact (closure _ ih _ below).resolve_right List.not_mem_nil

end Graph

end KeyFlow
