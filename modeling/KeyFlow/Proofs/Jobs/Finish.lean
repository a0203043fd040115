import KeyFlow.Proofs.Jobs.Tied

/-!
A job ends, a job starts, and the books are halted: what each does to the entries, and that the
entries stay tied to the dependencies of the jobs.
-/

namespace KeyFlow

/-- An entry after a halt. -/
def Entry.atHalt (cause : SkipCause) (e : Entry) : Entry :=
  if e.state = .pending then { e with state := .skipped (e.blocked.getD cause) } else e

namespace Entry

variable (cause : SkipCause) (e : Entry)

theorem atHalt_pending (h : e.state = .pending) :
    e.atHalt cause = { e with state := .skipped (e.blocked.getD cause) } := if_pos h

theorem atHalt_of_ne (h : e.state ≠ .pending) : e.atHalt cause = e := if_neg h

@[simp] theorem atHalt_consumers : (e.atHalt cause).consumers = e.consumers := by
  unfold atHalt
  split <;> rfl

@[simp] theorem atHalt_outstanding : (e.atHalt cause).outstanding = e.outstanding := by
  unfold atHalt
  split <;> rfl

@[simp] theorem atHalt_blocked : (e.atHalt cause).blocked = e.blocked := by
  unfold atHalt
  split <;> rfl

theorem atHalt_ne_pending : (e.atHalt cause).state ≠ .pending := by
  by_cases h : e.state = .pending
  · rw [atHalt_pending cause e h]
    exact nofun
  · rwa [atHalt_of_ne cause e h]

end Entry

namespace Books

/-- The books `b'` after job `i`, which had the entry `e`, ended in the state `s`. -/
structure Ended (i : Nat) (e : Entry) (s : JobState) (b b' : Books) : Prop where
  length : b'.jobs.length = b.jobs.length
  self : b'.jobs[i]? = some { e with state := s, consumers := [] }
  other : ∀ (c : Nat) (x : Entry), c ≠ i → b.jobs[c]? = some x →
    b'.jobs[c]? = some (x.released s.blocks (e.consumers.count c))
  places : ∀ c, places b'.jobs c + e.consumers.count c = places b.jobs c
  halted : b'.halted = b.halted

namespace Ended

variable {i : Nat} {e : Entry} {s : JobState} {b b' : Books}

theorem stateOf_self (ended : Ended i e s b b') : b'.stateOf i = some s := stateOf_eq ended.self

theorem stateOf_ne (ended : Ended i e s b b') {c : Nat} (h : c ≠ i) :
    b'.stateOf c = b.stateOf c := by
  cases found : b.jobs[c]? with
  | none =>
    rw [List.getElem?_eq_none_iff, ← ended.length] at found
    rw [stateOf, stateOf, List.getElem?_eq_none (by omega),
      List.getElem?_eq_none (by rw [← ended.length]; omega)]
  | some x => rw [stateOf_eq found, stateOf_eq (ended.other c x h found), Entry.released_state]

theorem states (ended : Ended i e s b b') : b'.states = b.states.set i s := by
  apply List.ext_getElem?
  intro c
  rw [List.getElem?_set, getElem?_states, getElem?_states]
  by_cases same : i = c
  · subst same
    have inRange : i < b.states.length := by
      have := (List.getElem?_eq_some_iff.mp ended.self).1
      rwa [ended.length, ← List.length_map (f := (·.state))] at this
    rw [if_pos rfl, if_pos inRange, ended.stateOf_self]
  · rw [if_neg same, ended.stateOf_ne (Ne.symm same)]

/-- Every entry comes from one that was there before. -/
theorem cases (ended : Ended i e s b b') {c : Nat} {x' : Entry} (found : b'.jobs[c]? = some x') :
    (c = i ∧ x' = { e with state := s, consumers := [] }) ∨
      (c ≠ i ∧ ∃ x, b.jobs[c]? = some x ∧
        x' = x.released s.blocks (e.consumers.count c)) := by
  by_cases same : c = i
  · subst same
    rw [ended.self, Option.some.injEq] at found
    exact .inl ⟨rfl, found.symm⟩
  · have inRange : c < b.jobs.length := by
      rw [← ended.length]
      exact (List.getElem?_eq_some_iff.mp found).1
    have before := List.getElem?_eq_getElem inRange
    rw [ended.other c _ same before, Option.some.injEq] at found
    exact .inr ⟨same, _, before, found.symm⟩

theorem blocksOf_self (ended : Ended i e s b b') : b'.blocksOf i = s.blocks :=
  blocksOf_eq ended.stateOf_self

theorem blocksOf_ne (ended : Ended i e s b b') {c : Nat} (h : c ≠ i) :
    b'.blocksOf c = b.blocksOf c := blocksOf_congr (ended.stateOf_ne h)

end Ended

/-- How a job may end: as it likes if it ran, else skipped for the block that it carries. -/
def MayEnd (e : Entry) (s : JobState) : Prop :=
  (e.state = .running ∧ ∀ cause, s = .skipped cause → cause = .declined) ∨
    ∃ cause, e.blocked = some cause ∧ s = .skipped cause

namespace Tied

variable {deps : List (List Nat)} {b b' : Books} {i : Nat} {e : Entry} {s : JobState}

/-- A job that ends was no reason for a block before. -/
theorem blocksOf_of_ended (found : b.jobs[i]? = some e) (live : e.state.isTerminal = false)
    (ended : Ended i e s b b') {d : Nat} {cause : SkipCause} (h : b.blocksOf d = some cause) :
    b'.blocksOf d = some cause := by
  rw [ended.blocksOf_ne, h]
  rintro rfl
  rw [blocksOf_live found live] at h
  cases h

theorem outstanding_of_ended (tied : Tied deps b) (found : b.jobs[i]? = some e)
    (live : e.state.isTerminal = false) (ended : Ended i e s b b') {c : Nat} {x' : Entry}
    (found' : b'.jobs[c]? = some x') : x'.outstanding = places b'.jobs c := by
  have sum := ended.places c
  rcases ended.cases found' with ⟨rfl, rfl⟩ | ⟨ne, x, foundx, rfl⟩
  · have settled : e.consumers.count c = 0 := by
      rw [tied.consumers c e found live c]
      exact List.count_eq_zero_of_not_mem fun named => by
        have := tied.earlier c c named
        omega
    have := tied.outstanding c e found
    simp only
    omega
  · have := tied.outstanding c x foundx
    rw [Entry.released_outstanding]
    omega

theorem unblocked_of_ended (tied : Tied deps b) (found : b.jobs[i]? = some e)
    (live : e.state.isTerminal = false) (terminal : s.isTerminal = true)
    (ended : Ended i e s b b') {c : Nat} {x' : Entry} (found' : b'.jobs[c]? = some x')
    (pending : x'.state = .pending) (free : x'.blocked = none) {d : Nat}
    (named : d ∈ deps[c]?.getD []) : b'.blocksOf d = none := by
  rcases ended.cases found' with ⟨rfl, rfl⟩ | ⟨ne, x, foundx, rfl⟩
  · simp only at pending
    rw [pending] at terminal
    cases terminal
  · rw [Entry.released_state] at pending
    by_cases told : 0 < e.consumers.count c
    · rw [Entry.blocked_released _ _ _ told, Option.or_eq_none_iff] at free
      by_cases same : d = i
      · rw [same, ended.blocksOf_self, free.2]
      · rw [ended.blocksOf_ne same]
        exact tied.unblocked c x foundx pending free.1 d named
    · have zero : e.consumers.count c = 0 := by omega
      rw [zero, Entry.released_zero] at free
      have ne' : d ≠ i := by
        rintro rfl
        rw [tied.consumers d e found live, List.count_eq_zero] at zero
        exact zero named
      rw [ended.blocksOf_ne ne']
      exact tied.unblocked c x foundx pending free d named

theorem blocked_of_ended (tied : Tied deps b) (found : b.jobs[i]? = some e)
    (live : e.state.isTerminal = false) (ended : Ended i e s b b') {c : Nat} {x' : Entry}
    {cause : SkipCause} (found' : b'.jobs[c]? = some x') (block : x'.blocked = some cause) :
    ∃ d ∈ deps[c]?.getD [], b'.blocksOf d = some cause := by
  have old (x : Entry) (foundx : b.jobs[c]? = some x) (block : x.blocked = some cause) :
      ∃ d ∈ deps[c]?.getD [], b'.blocksOf d = some cause := by
    obtain ⟨d, named, blocks⟩ := tied.blocked c x cause foundx block
    exact ⟨d, named, blocksOf_of_ended found live ended blocks⟩
  rcases ended.cases found' with ⟨rfl, rfl⟩ | ⟨ne, x, foundx, rfl⟩
  · exact old e found block
  · by_cases told : 0 < e.consumers.count c
    · rw [Entry.blocked_released _ _ _ told, Option.or_eq_some_iff] at block
      rcases block with block | ⟨_, new⟩
      · exact old x foundx block
      · rw [tied.consumers i e found live, List.count_pos_iff] at told
        exact ⟨i, told, by rw [ended.blocksOf_self, new]⟩
    · rw [show e.consumers.count c = 0 by omega, Entry.released_zero] at block
      exact old x foundx block

theorem begun_of_ended (tied : Tied deps b) (found : b.jobs[i]? = some e)
    (live : e.state.isTerminal = false) (may : MayEnd e s) (ended : Ended i e s b b') {c : Nat}
    {x' : Entry} (found' : b'.jobs[c]? = some x') (begun : x'.state.hasBegun = true) {d : Nat}
    (named : d ∈ deps[c]?.getD []) : b'.stateOf d = some .succeeded := by
  rcases ended.cases found' with ⟨rfl, rfl⟩ | ⟨ne, x, foundx, rfl⟩
  · rw [ended.stateOf_ne (Nat.ne_of_lt (tied.earlier c d named))]
    rcases may with ⟨running, _⟩ | ⟨cause, _, rfl⟩
    · exact tied.begun c e found (by rw [running]; rfl) d named
    · cases begun
  · have before := tied.begun c x foundx (by simpa using begun) d named
    rw [ended.stateOf_ne, before]
    rintro rfl
    rw [stateOf_eq found, Option.some.injEq] at before
    rw [before] at live
    cases live

theorem skipped_of_ended (tied : Tied deps b) (found : b.jobs[i]? = some e)
    (live : e.state.isTerminal = false) (may : MayEnd e s) (ended : Ended i e s b b') {c : Nat}
    {x' : Entry} {cause : SkipCause} (found' : b'.jobs[c]? = some x')
    (skip : x'.state = .skipped cause) : cause = .declined ∨ b.halted = some cause ∨
      ∃ d ∈ deps[c]?.getD [], b'.blocksOf d = some cause := by
  rcases ended.cases found' with ⟨rfl, rfl⟩ | ⟨ne, x, foundx, rfl⟩
  · rcases may with ⟨_, declined⟩ | ⟨cause', block, rfl⟩
    · exact .inl (declined cause skip)
    · simp only [JobState.skipped.injEq] at skip
      obtain ⟨d, named, blocks⟩ := tied.blocked c e cause found (skip ▸ block)
      exact .inr (.inr ⟨d, named, blocksOf_of_ended found live ended blocks⟩)
  · rcases tied.skipped c x cause foundx (by simpa using skip) with h | h | ⟨d, named, blocks⟩
    · exact .inl h
    · exact .inr (.inl h)
    · exact .inr (.inr ⟨d, named, blocksOf_of_ended found live ended blocks⟩)

theorem ended (tied : Tied deps b) (found : b.jobs[i]? = some e)
    (live : e.state.isTerminal = false) (terminal : s.isTerminal = true) (may : MayEnd e s)
    (ended : Ended i e s b b') : Tied deps b' := by
  constructor
  case length => rw [tied.length, ended.length]
  case earlier => exact tied.earlier
  case consumers =>
    intro c x' found' live' k
    rcases ended.cases found' with ⟨rfl, rfl⟩ | ⟨ne, x, foundx, rfl⟩
    · simp [terminal] at live'
    · rw [Entry.released_consumers]
      exact tied.consumers c x foundx (by simpa using live') k
  case outstanding => exact fun c x' => tied.outstanding_of_ended found live ended
  case fresh =>
    intro c far
    have := tied.fresh c (by rwa [← ended.length])
    have := ended.places c
    omega
  case closed =>
    intro unhalted c x' found' terminal'
    rcases ended.cases found' with ⟨rfl, rfl⟩ | ⟨ne, x, foundx, rfl⟩
    · rfl
    · rw [Entry.released_consumers]
      exact tied.closed (ended.halted ▸ unhalted) c x foundx (by simpa using terminal')
  case unblocked =>
    intro c x' found' pending free d named
    exact tied.unblocked_of_ended found live terminal ended found' pending free named
  case blocked => exact fun c x' cause => tied.blocked_of_ended found live ended
  case begun =>
    intro c x' found' begun d named
    exact tied.begun_of_ended found live may ended found' begun named
  case skipped =>
    intro c x' cause found' skip
    rw [ended.halted]
    exact tied.skipped_of_ended found live may ended found' skip
  case stopped =>
    intro halted c x' found'
    rw [ended.halted] at halted
    rcases ended.cases found' with ⟨rfl, rfl⟩ | ⟨ne, x, foundx, rfl⟩
    · rintro rfl
      cases terminal
    · rw [Entry.released_state]
      exact tied.stopped halted c x foundx

end Tied

/-! ## The end of a job in the books -/

/-- The queue holds the pending jobs that wait for nothing, apart from those in `out`. -/
def Lined (out : Nat → Prop) (b : Books) : Prop :=
  b.ready.Nodup ∧ ∀ c, c ∈ b.ready ↔
    ¬ out c ∧ ∃ e : Entry, b.jobs[c]? = some e ∧ e.state = .pending ∧ e.outstanding = 0

/-- What finishing a job changes beside the entries. -/
structure Closed (b b' : Books) : Prop where
  frame : b' = { b with jobs := b'.jobs, ready := b'.ready, unfinished := b'.unfinished }
  unfinished : b'.unfinished + 1 = b.unfinished

/-- The queue after the consumers of an ended job were told: those that wait for nothing any more
stand behind those that did before. -/
theorem Lined.finish {deps : List (List Nat)} {b b₀ b' : Books} {i : Nat} {e : Entry}
    {s : JobState} (lined : Lined (· = i) b) (tied : Tied deps b) (found : b.jobs[i]? = some e)
    (terminal : s.isTerminal = true) (ahead : ∀ c ∈ e.consumers, c ≠ i)
    (ended : Ended i e s b b') (told : Told s.blocks e.consumers b₀ b')
    (ready : b₀.ready = b.ready) (other : ∀ c, c ≠ i → b₀.jobs[c]? = b.jobs[c]?) :
    Lined (fun _ => False) b' := by
  obtain ⟨woken, queue, nodup, mem⟩ := told.woken
  obtain ⟨nodup₀, mem₀⟩ := lined
  rw [ready] at queue
  -- A woken job waited for this one, so it was not in the queue before.
  have apart (c : Nat) (new : c ∈ woken) : c ∉ b.ready := by
    obtain ⟨x, foundx, pending, counted, all⟩ := (mem c).mp new
    rw [mem₀]
    rintro ⟨ne, x', foundx', _, settled⟩
    rw [other c ne, foundx', Option.some.injEq] at foundx
    subst foundx
    omega
  refine ⟨?_, fun c => ?_⟩
  · rw [queue]
    exact List.Nodup.append nodup₀ nodup fun c old new => apart c new old
  · rw [queue, List.mem_append, mem]
    constructor
    · rintro (old | ⟨x, foundx, pending, counted, all⟩)
      · obtain ⟨ne, x, foundx, pending, settled⟩ := (mem₀ c).mp old
        refine ⟨id, _, ended.other c x ne foundx, by simpa using pending, ?_⟩
        rw [Entry.released_outstanding]
        omega
      · have ne : c ≠ i := ahead c (List.count_pos_iff.mp counted)
        refine ⟨id, _, ended.other c x ne ((other c ne).symm.trans foundx), by simpa using pending,
          ?_⟩
        rw [Entry.released_outstanding]
        omega
    · rintro ⟨-, x', found', pending, settled⟩
      rcases ended.cases found' with ⟨rfl, rfl⟩ | ⟨ne, x, foundx, rfl⟩
      · simp only at pending
        rw [pending] at terminal
        cases terminal
      · rw [Entry.released_state] at pending
        rw [Entry.released_outstanding] at settled
        have le : e.consumers.count c ≤ x.outstanding := by
          rw [tied.outstanding c x foundx]
          exact count_le_places found c
        by_cases isTold : 0 < e.consumers.count c
        · exact .inr ⟨x, (other c ne).trans foundx, pending, isTold, by omega⟩
        · exact .inl ((mem₀ c).mpr ⟨ne, x, foundx, pending, by omega⟩)

theorem finish_ok {deps : List (List Nat)} {b : Books} {i : Nat} {e : Entry} {s : JobState}
    (tied : Tied deps b) (found : b.jobs[i]? = some e) (live : e.state.isTerminal = false)
    (terminal : s.isTerminal = true) (lined : Lined (· = i) b) (counted : 0 < b.unfinished) :
    ∃ b', b.finish i s = .ok b' ∧ Ended i e s b b' ∧ Lined (fun _ => False) b' ∧ Closed b b' := by
  obtain ⟨n, count⟩ : ∃ n, b.unfinished = n + 1 := ⟨b.unfinished - 1, by omega⟩
  have inRange := (List.getElem?_eq_some_iff.mp found).1
  let b₀ : Books :=
    { b with jobs := b.jobs.set i { e with state := s, consumers := [] }, unfinished := n }
  have other (c : Nat) (ne : c ≠ i) : b₀.jobs[c]? = b.jobs[c]? :=
    List.getElem?_set_ne (Ne.symm ne)
  have self : b₀.jobs[i]? = some { e with state := s, consumers := [] } := by
    simp [b₀, inRange]
  have places₀ (c : Nat) : places b₀.jobs c + e.consumers.count c = places b.jobs c := by
    simpa using places_set (y := { e with state := s, consumers := [] }) found c
  have ahead (c : Nat) (mem : c ∈ e.consumers) : c ≠ i :=
    Nat.ne_of_gt (tied.behind found live mem).2.1
  obtain ⟨b', done, told⟩ := releaseAll_ok s.blocks e.consumers (b := b₀)
    fun c mem => by
      have within := (tied.behind found live mem).2.2
      have before := List.getElem?_eq_getElem within
      refine ⟨_, (other c (ahead c mem)).trans before, ?_⟩
      rw [tied.outstanding c _ before]
      exact count_le_places found c
  have zero : e.consumers.count i = 0 :=
    List.count_eq_zero_of_not_mem fun mem => ahead i mem rfl
  have ended : Ended i e s b b' := by
    refine ⟨told.length.trans (List.length_set ..), ?_, ?_, ?_, by rw [told.frame]⟩
    · rw [told.entries i _ self, zero, Entry.released_zero]
    · intro c x ne foundx
      exact told.entries c x ((other c ne).trans foundx)
    · intro c
      rw [places_congr told.length, places₀]
      intro k x foundx
      exact ⟨_, told.entries k x foundx, Entry.released_consumers ..⟩
  refine ⟨b', ?_, ended, lined.finish tied found terminal ahead ended told rfl other, ?_⟩
  · rw [finish, found, count]
    exact done
  · rw [told.frame]
    exact ⟨rfl, count.symm⟩

/-! ## A job starts -/

/-- The books after job `i`, at the head of the queue with the entry `e`, has started. -/
def started (b : Books) (i : Nat) (e : Entry) (rest : List Nat) : Books :=
  { b with
    ready := rest
    jobs := b.jobs.set i { e with state := .running }
    running := b.running + 1 }

theorem stateOf_started {b : Books} {i : Nat} {e : Entry} (rest : List Nat)
    (found : b.jobs[i]? = some e) (c : Nat) :
    (b.started i e rest).stateOf c = if c = i then some .running else b.stateOf c := by
  have inRange := (List.getElem?_eq_some_iff.mp found).1
  by_cases same : c = i
  · subst same
    simp [stateOf, started, inRange]
  · simp [stateOf, started, Ne.symm same, same]

theorem blocksOf_started {b : Books} {i : Nat} {e : Entry} (rest : List Nat)
    (found : b.jobs[i]? = some e) (pending : e.state = .pending) (c : Nat) :
    (b.started i e rest).blocksOf c = b.blocksOf c := by
  rw [blocksOf, stateOf_started rest found]
  split
  · rename_i same
    rw [same, blocksOf_eq (stateOf_eq found), pending]
    rfl
  · rfl

theorem Tied.start {deps : List (List Nat)} {b : Books} {i : Nat} {e : Entry}
    (tied : Tied deps b) (rest : List Nat) (found : b.jobs[i]? = some e)
    (pending : e.state = .pending) (settled : e.outstanding = 0) (free : e.blocked = none) :
    Tied deps (b.started i e rest) := by
  have blocks := blocksOf_started (b := b) rest found pending
  have sum (c : Nat) : places (b.started i e rest).jobs c = places b.jobs c := by
    have := places_set (y := { e with state := .running }) found c
    simp only [started] at this ⊢
    omega
  constructor
  case length => simpa [started] using tied.length
  case earlier => exact tied.earlier
  case consumers =>
    intro c x found' live
    rcases entry_set_cases found' with ⟨rfl, rfl⟩ | ⟨ne, foundx⟩
    · exact tied.consumers c e found (by rw [pending]; rfl)
    · exact tied.consumers c x foundx live
  case outstanding =>
    intro c x found'
    rw [sum]
    rcases entry_set_cases found' with ⟨rfl, rfl⟩ | ⟨ne, foundx⟩
    · exact tied.outstanding c e found
    · exact tied.outstanding c x foundx
  case fresh =>
    intro c far
    rw [sum]
    exact tied.fresh c (by simpa [started] using far)
  case closed =>
    intro unhalted c x found' terminal
    rcases entry_set_cases found' with ⟨rfl, rfl⟩ | ⟨ne, foundx⟩
    · cases terminal
    · exact tied.closed unhalted c x foundx terminal
  case unblocked =>
    intro c x found' waits free' d named
    rw [blocks]
    rcases entry_set_cases found' with ⟨rfl, rfl⟩ | ⟨ne, foundx⟩
    · cases waits
    · exact tied.unblocked c x foundx waits free' d named
  case blocked =>
    intro c x cause found' block
    simp only [blocks]
    rcases entry_set_cases found' with ⟨rfl, rfl⟩ | ⟨ne, foundx⟩
    · exact tied.blocked c e cause found block
    · exact tied.blocked c x cause foundx block
  case begun =>
    intro c x found' begun d named
    rw [stateOf_started rest found]
    have succeeded : b.stateOf d = some .succeeded := by
      rcases entry_set_cases found' with ⟨rfl, rfl⟩ | ⟨ne, foundx⟩
      · exact tied.succeeded_of_ready found pending settled free d named
      · exact tied.begun c x foundx begun d named
    rw [if_neg, succeeded]
    rintro rfl
    rw [stateOf_eq found, pending] at succeeded
    cases succeeded
  case skipped =>
    intro c x cause found' skip
    simp only [blocks]
    rcases entry_set_cases found' with ⟨rfl, rfl⟩ | ⟨ne, foundx⟩
    · cases skip
    · exact tied.skipped c x cause foundx skip
  case stopped =>
    intro halted c x found'
    exact absurd pending (tied.stopped halted i e found)

/-! ## The books are halted -/

/-- The books after a halt that leaves `n` jobs unfinished. -/
def haltedBy (b : Books) (cause : SkipCause) (n : Nat) : Books :=
  { b with
    halted := some cause
    ready := []
    unfinished := n
    jobs := b.jobs.map (Entry.atHalt cause) }

section halt

variable {b : Books} (cause : SkipCause) (n : Nat)

theorem entry_haltedBy {c : Nat} {x' : Entry} :
    (b.haltedBy cause n).jobs[c]? = some x' ↔ ∃ x, b.jobs[c]? = some x ∧ x' = x.atHalt cause := by
  rw [haltedBy, List.getElem?_map, Option.map_eq_some_iff]
  simp only [eq_comm]

/-- A job that started or is at an end goes on as it is. -/
theorem stateOf_haltedBy {c : Nat} {s : JobState} (state : b.stateOf c = some s)
    (h : s ≠ .pending) : (b.haltedBy cause n).stateOf c = some s := by
  obtain ⟨x, found, rfl⟩ := entry_of_stateOf state
  rw [stateOf_eq ((entry_haltedBy cause n).mpr ⟨x, found, rfl⟩), Entry.atHalt_of_ne cause x h]

theorem blocksOf_haltedBy {c : Nat} {cause' : SkipCause} (blocks : b.blocksOf c = some cause') :
    (b.haltedBy cause n).blocksOf c = some cause' := by
  obtain ⟨s, state, block⟩ := Option.bind_eq_some_iff.mp blocks
  rw [blocksOf_eq (stateOf_haltedBy cause n state _), block]
  rintro rfl
  cases block

theorem Tied.halt {deps : List (List Nat)} (tied : Tied deps b) (unhalted : b.halted = none) :
    Tied deps (b.haltedBy cause n) := by
  have sum (c : Nat) : places (b.haltedBy cause n).jobs c = places b.jobs c :=
    places_congr (List.length_map ..) (fun i x found =>
      ⟨_, (entry_haltedBy cause n).mpr ⟨x, found, rfl⟩, Entry.atHalt_consumers cause x⟩) c
  constructor
  case length => simpa [haltedBy] using tied.length
  case earlier => exact tied.earlier
  case consumers =>
    intro c x' found live
    obtain ⟨x, foundx, rfl⟩ := (entry_haltedBy cause n).mp found
    rw [Entry.atHalt_consumers]
    by_cases pending : x.state = .pending
    · exact tied.consumers c x foundx (by rw [pending]; rfl)
    · rw [Entry.atHalt_of_ne cause x pending] at live
      exact tied.consumers c x foundx live
  case outstanding =>
    intro c x' found
    obtain ⟨x, foundx, rfl⟩ := (entry_haltedBy cause n).mp found
    rw [sum, Entry.atHalt_outstanding]
    exact tied.outstanding c x foundx
  case fresh =>
    intro c far
    rw [sum]
    exact tied.fresh c (by simpa [haltedBy] using far)
  case closed => exact nofun
  case unblocked =>
    intro c x' found pending
    obtain ⟨x, foundx, rfl⟩ := (entry_haltedBy cause n).mp found
    exact absurd pending (Entry.atHalt_ne_pending cause x)
  case blocked =>
    intro c x' cause' found block
    obtain ⟨x, foundx, rfl⟩ := (entry_haltedBy cause n).mp found
    rw [Entry.atHalt_blocked] at block
    obtain ⟨d, named, blocks⟩ := tied.blocked c x cause' foundx block
    exact ⟨d, named, blocksOf_haltedBy cause n blocks⟩
  case begun =>
    intro c x' found begun d named
    obtain ⟨x, foundx, rfl⟩ := (entry_haltedBy cause n).mp found
    by_cases pending : x.state = .pending
    · rw [Entry.atHalt_pending cause x pending] at begun
      cases begun
    · rw [Entry.atHalt_of_ne cause x pending] at begun
      exact stateOf_haltedBy cause n (tied.begun c x foundx begun d named) nofun
  case skipped =>
    intro c x' cause' found skip
    obtain ⟨x, foundx, rfl⟩ := (entry_haltedBy cause n).mp found
    by_cases pending : x.state = .pending
    · rw [Entry.atHalt_pending cause x pending, JobState.skipped.injEq] at skip
      cases block : x.blocked with
      | none => exact .inr (.inl (by rw [← skip, block]; rfl))
      | some cause₀ =>
        rw [block, Option.getD_some] at skip
        obtain ⟨d, named, blocks⟩ := tied.blocked c x cause₀ foundx block
        exact .inr (.inr ⟨d, named, skip ▸ blocksOf_haltedBy cause n blocks⟩)
    · rw [Entry.atHalt_of_ne cause x pending] at skip
      rcases tied.skipped c x cause' foundx skip with h | h | ⟨d, named, blocks⟩
      · exact .inl h
      · rw [unhalted] at h
        cases h
      · exact .inr (.inr ⟨d, named, blocksOf_haltedBy cause n blocks⟩)
  case stopped =>
    intro _ c x' found
    obtain ⟨x, foundx, rfl⟩ := (entry_haltedBy cause n).mp found
    exact Entry.atHalt_ne_pending cause x

end halt

end Books

end KeyFlow
