import KeyFlow.Jobs.Books
import Mathlib.Algebra.GroupWithZero.Nat
import Mathlib.Data.List.Nodup

/-!
What it means for a list of jobs that one of them ends: each consumer is told once for every time
it named the ended job. The operations of the books that tell consumers are described here as a
whole, so that nothing after this module opens them.
-/

namespace KeyFlow

namespace JobState

theorem blocks_eq_none {s : JobState} (h : s.isTerminal = true) (free : s.blocks = none) :
    s = .succeeded := by
  cases s <;> simp_all [isTerminal, blocks]

theorem isTerminal_of_blocks {s : JobState} {cause : SkipCause} (h : s.blocks = some cause) :
    s.isTerminal = true := by
  cases s <;> simp_all [isTerminal, blocks]

/-- Nobody declines on behalf of another job. -/
theorem blocks_ne_declined (s : JobState) : s.blocks ≠ some .declined := by
  cases s with
  | skipped cause => cases cause <;> simp [blocks, SkipCause.inherited]
  | _ => simp [blocks]

end JobState

/-- An entry after `times` of its dependencies ended, all with the same cause. -/
def Entry.released (cause : Option SkipCause) (times : Nat) (e : Entry) : Entry :=
  if times = 0 then e
  else { e with blocked := e.blocked.or cause, outstanding := e.outstanding - times }

namespace Entry

variable (cause : Option SkipCause) (times : Nat) (e : Entry)

@[simp] theorem released_zero : e.released cause 0 = e := rfl

@[simp] theorem released_state : (e.released cause times).state = e.state := by
  unfold released
  split <;> rfl

@[simp] theorem released_consumers : (e.released cause times).consumers = e.consumers := by
  unfold released
  split <;> rfl

@[simp] theorem released_outstanding :
    (e.released cause times).outstanding = e.outstanding - times := by
  unfold released
  split
  · rename_i zeroTimes
    rw [zeroTimes, Nat.sub_zero]
  · rfl

theorem released_one_released :
    (e.released cause 1).released cause times = e.released cause (times + 1) := by
  unfold released
  by_cases last : times = 0
  · simp [last]
  · rw [if_neg last, if_neg (by omega), if_neg (by omega)]
    simp only [Option.or_assoc, Option.or_self, Nat.sub_sub, Nat.add_comm times 1]

theorem blocked_released (h : 0 < times) :
    (e.released cause times).blocked = e.blocked.or cause := by
  unfold released
  rw [if_neg (by omega)]

end Entry

namespace Books

/-- The books `b'` after the jobs in `cs` were told, once for each place in `cs`, that a dependency
ended with this cause. -/
structure Told (cause : Option SkipCause) (cs : List Nat) (b b' : Books) : Prop where
  frame : b' = { b with jobs := b'.jobs, ready := b'.ready }
  length : b'.jobs.length = b.jobs.length
  entries : ∀ (c : Nat) (e : Entry), b.jobs[c]? = some e →
    b'.jobs[c]? = some (e.released cause (cs.count c))
  woken : ∃ woken, b'.ready = b.ready ++ woken ∧ woken.Nodup ∧ ∀ c, c ∈ woken ↔
    ∃ e : Entry, b.jobs[c]? = some e ∧ e.state = .pending ∧ 0 < cs.count c ∧
      e.outstanding = cs.count c

theorem Told.refl (cause : Option SkipCause) (b : Books) : Told cause [] b b where
  frame := rfl
  length := rfl
  entries := fun c e found => by simpa using found
  woken := ⟨[], by simp, List.nodup_nil, by simp⟩

theorem release_ok (cause : Option SkipCause) {b : Books} {c : Nat} {e : Entry}
    (found : b.jobs[c]? = some e) (waits : 0 < e.outstanding) :
    ∃ b', b.release cause c = .ok b' ∧ Told cause [c] b b' := by
  obtain ⟨n, count⟩ : ∃ n, e.outstanding = n + 1 := ⟨e.outstanding - 1, by omega⟩
  have inRange : c < b.jobs.length := (List.getElem?_eq_some_iff.mp found).1
  refine ⟨_, by rw [release, found]; simp only [count]; rfl, rfl, by simp, ?_, ?_⟩
  · intro i x placed
    by_cases same : i = c
    · subst same
      rw [found, Option.some.injEq] at placed
      subst placed
      simp [Entry.released, inRange, count]
    · rw [List.getElem?_set_ne (Ne.symm same), placed]
      simp [Ne.symm same]
  · by_cases last : n = 0 ∧ e.state = .pending
    · refine ⟨[c], by simp [last], List.nodup_singleton c, fun i => ?_⟩
      rw [List.mem_singleton]
      constructor
      · rintro rfl
        exact ⟨e, found, last.2, by simp, by simp [count, last.1]⟩
      · rintro ⟨x, _, _, counted, _⟩
        simpa using List.count_pos_iff.mp counted
    · refine ⟨[], by simp [last], List.nodup_nil, fun i => ?_⟩
      simp only [List.not_mem_nil, false_iff, not_exists]
      rintro x ⟨placed, pending, counted, all⟩
      obtain rfl : i = c := by simpa using List.count_pos_iff.mp counted
      rw [found, Option.some.injEq] at placed
      subst placed
      simp [count] at all
      exact last ⟨all, pending⟩

theorem Told.entries_cons {cause : Option SkipCause} {c : Nat} {cs : List Nat} {b b₁ b' : Books}
    (first : Told cause [c] b b₁) (rest : Told cause cs b₁ b') {i : Nat} {e : Entry}
    (found : b.jobs[i]? = some e) :
    b'.jobs[i]? = some (e.released cause ((c :: cs).count i)) := by
  have again := rest.entries i _ (first.entries i e found)
  by_cases same : i = c
  · subst same
    have one : [i].count i = 1 := by simp
    rw [again, one, List.count_cons_self, Entry.released_one_released]
  · have zero : [c].count i = 0 := by simp [Ne.symm same]
    rw [again, zero, List.count_cons_of_ne (Ne.symm same)]
    rfl

/-- After one place, those that the others wake are those that waited for just all of them. -/
theorem Told.woken_later {cause : Option SkipCause} {c : Nat} {cs : List Nat} {b b₁ : Books}
    (first : Told cause [c] b b₁)
    (enough : ∀ e : Entry, b.jobs[c]? = some e → (c :: cs).count c ≤ e.outstanding) (i : Nat) :
    (∃ e : Entry, b₁.jobs[i]? = some e ∧ e.state = .pending ∧ 0 < cs.count i ∧
      e.outstanding = cs.count i) ↔
    ∃ e : Entry, b.jobs[i]? = some e ∧ e.state = .pending ∧ 0 < cs.count i ∧
      e.outstanding = (c :: cs).count i := by
  constructor
  · rintro ⟨x, placed, pending, counted, all⟩
    have inRange : i < b.jobs.length :=
      first.length ▸ (List.getElem?_eq_some_iff.mp placed).1
    obtain ⟨e, found⟩ : ∃ e, b.jobs[i]? = some e := ⟨_, List.getElem?_eq_getElem inRange⟩
    rw [first.entries i e found, Option.some.injEq] at placed
    subst placed
    refine ⟨e, found, by simpa using pending, counted, ?_⟩
    rw [Entry.released_outstanding] at all
    by_cases same : i = c
    · subst same
      have := enough e found
      simp only [List.count_cons_self, List.count_nil] at all this ⊢
      omega
    · simpa [List.count_cons, Ne.symm same] using all
  · rintro ⟨e, found, pending, counted, all⟩
    refine ⟨_, first.entries i e found, by simpa using pending, counted, ?_⟩
    rw [Entry.released_outstanding, all]
    by_cases same : i = c
    · subst same
      simp
    · simp [Ne.symm same]

theorem Told.cons {cause : Option SkipCause} {c : Nat} {cs : List Nat} {b b₁ b' : Books}
    (first : Told cause [c] b b₁) (rest : Told cause cs b₁ b')
    (enough : ∀ e : Entry, b.jobs[c]? = some e → (c :: cs).count c ≤ e.outstanding) :
    Told cause (c :: cs) b b' := by
  refine ⟨?_, rest.length.trans first.length, fun i e => first.entries_cons rest, ?_⟩
  · rw [rest.frame, first.frame]
  · obtain ⟨one, eq₁, nodup₁, mem₁⟩ := first.woken
    obtain ⟨more, eq₂, nodup₂, mem₂⟩ := rest.woken
    have later := fun i => (mem₂ i).trans (first.woken_later enough i)
    refine ⟨one ++ more, by rw [eq₂, eq₁, List.append_assoc], ?_, fun i => ?_⟩
    · refine List.Nodup.append nodup₁ nodup₂ fun i old new => ?_
      obtain ⟨e, found, _, counted, all⟩ := (mem₁ i).mp old
      obtain ⟨x, placed, _, counted', all'⟩ := (later i).mp new
      rw [found, Option.some.injEq] at placed
      subst placed
      rw [all, List.count_cons] at all'
      simp only [List.count_cons, List.count_nil] at all'
      omega
    · rw [List.mem_append, mem₁, later]
      constructor
      · rintro (⟨e, found, pending, counted, all⟩ | ⟨e, found, pending, counted, all⟩)
        · obtain rfl : i = c := by simpa using List.count_pos_iff.mp counted
          have := enough e found
          refine ⟨e, found, pending, by simp, ?_⟩
          simp only [List.count_cons_self, List.count_nil] at all this ⊢
          omega
        · exact ⟨e, found, pending, by rw [List.count_cons]; omega, all⟩
      · rintro ⟨e, found, pending, counted, all⟩
        by_cases zeroTimes : cs.count i = 0
        · refine .inl ⟨e, found, pending, ?_, ?_⟩ <;>
            simp only [List.count_cons, zeroTimes, List.count_nil] at counted all ⊢ <;> omega
        · exact .inr ⟨e, found, pending, by omega, all⟩

/-- Jobs that wait for at least as many dependencies as there are places for them can be told. -/
theorem releaseAll_ok (cause : Option SkipCause) (cs : List Nat) {b : Books}
    (enough : ∀ c ∈ cs, ∃ e : Entry, b.jobs[c]? = some e ∧ cs.count c ≤ e.outstanding) :
    ∃ b', releaseAll cause cs b = .ok b' ∧ Told cause cs b b' := by
  induction cs generalizing b with
  | nil => exact ⟨b, rfl, .refl cause b⟩
  | cons c cs ih =>
    obtain ⟨e, found, count⟩ := enough c (List.mem_cons_self ..)
    obtain ⟨b₁, released, first⟩ := release_ok cause found
      (by rw [List.count_cons_self] at count; omega)
    obtain ⟨b', done, rest⟩ := ih (b := b₁) fun i mem => by
      obtain ⟨x, placed, countx⟩ := enough i (List.mem_cons_of_mem _ mem)
      refine ⟨_, first.entries i x placed, ?_⟩
      rw [Entry.released_outstanding]
      simp only [List.count_cons, List.count_nil] at countx ⊢
      omega
    refine ⟨b', by rw [releaseAll, released]; exact done, first.cons rest fun x placed => ?_⟩
    rw [found, Option.some.injEq] at placed
    exact placed ▸ count

/-! ## Lists of consumers -/

/-- In how many places of all lists of consumers a job stands. -/
def places (jobs : List Entry) (c : Nat) : Nat := (jobs.map fun e => e.consumers.count c).sum

@[simp] theorem places_append (jobs more : List Entry) (c : Nat) :
    places (jobs ++ more) c = places jobs c + places more c := by
  simp [places]

@[simp] theorem places_singleton (e : Entry) (c : Nat) :
    places [e] c = e.consumers.count c := by
  simp [places]

theorem entry_set_cases {jobs : List Entry} {i c : Nat} {y x : Entry}
    (h : (jobs.set i y)[c]? = some x) : (c = i ∧ x = y) ∨ (c ≠ i ∧ jobs[c]? = some x) := by
  by_cases same : i = c
  · subst same
    have inRange : i < jobs.length := by
      simpa using (List.getElem?_eq_some_iff.mp h).1
    rw [List.getElem?_set_self inRange, Option.some.injEq] at h
    exact .inl ⟨rfl, h.symm⟩
  · rw [List.getElem?_set_ne same] at h
    exact .inr ⟨Ne.symm same, h⟩

theorem places_set {jobs : List Entry} {i : Nat} {x y : Entry} (h : jobs[i]? = some x) (c : Nat) :
    places (jobs.set i y) c + x.consumers.count c = places jobs c + y.consumers.count c := by
  induction jobs generalizing i with
  | nil => simp at h
  | cons e es ih =>
    cases i with
    | zero =>
      simp only [List.getElem?_cons_zero, Option.some.injEq] at h
      subst h
      simp only [places, List.set_cons_zero, List.map_cons, List.sum_cons]
      omega
    | succ i =>
      have rest := ih (by simpa using h)
      simp only [places, List.set_cons_succ, List.map_cons, List.sum_cons] at rest ⊢
      omega

/-- Places only depend on the lists of consumers. -/
theorem places_congr {jobs jobs' : List Entry} (length : jobs'.length = jobs.length)
    (same : ∀ (i : Nat) (e : Entry), jobs[i]? = some e →
      ∃ e' : Entry, jobs'[i]? = some e' ∧ e'.consumers = e.consumers)
    (c : Nat) : places jobs' c = places jobs c := by
  have consumers : jobs'.map (·.consumers) = jobs.map (·.consumers) := by
    apply List.ext_getElem?
    intro i
    rw [List.getElem?_map, List.getElem?_map]
    cases found : jobs[i]? with
    | none =>
      rw [List.getElem?_eq_none_iff] at found
      rw [List.getElem?_eq_none (by omega)]
    | some e =>
      obtain ⟨e', found', eq⟩ := same i e found
      simp [found', eq]
  have counts := congrArg (List.map (List.count c)) consumers
  rw [List.map_map, List.map_map] at counts
  exact congrArg List.sum counts

theorem mem_consumers_of_places {jobs : List Entry} {c : Nat} (h : 0 < places jobs c) :
    ∃ (i : Nat) (e : Entry), jobs[i]? = some e ∧ c ∈ e.consumers := by
  induction jobs with
  | nil => simp [places] at h
  | cons e es ih =>
    by_cases here : c ∈ e.consumers
    · exact ⟨0, e, rfl, here⟩
    · have rest : 0 < places es c := by
        simpa [places, List.count_eq_zero_of_not_mem here] using h
      obtain ⟨i, x, found, mem⟩ := ih rest
      exact ⟨i + 1, x, by simpa using found, mem⟩

theorem count_le_places {jobs : List Entry} {i : Nat} {e : Entry} (h : jobs[i]? = some e)
    (c : Nat) : e.consumers.count c ≤ places jobs c := by
  have sum := places_set (y := { e with consumers := [] }) h c
  simp only [List.count_nil] at sum
  omega

end Books

end KeyFlow
