import KeyFlow.Proofs.Jobs.Tied

/-!
A job is added. It signs up with those of its dependencies that are not at an end, once for each
time it names them, and takes its block from the first that ended without success.
-/

namespace KeyFlow

namespace Books

/-- A new entry `e` with the index `index` became `e'` and the books `b` became `b'` by signing up
with the jobs in `ds`. -/
structure SignedUp (index : Nat) (ds : List Nat) (e e' : Entry) (b b' : Books) : Prop where
  frame : b' = { b with jobs := b'.jobs }
  length : b'.jobs.length = b.jobs.length
  known : ∀ d ∈ ds, d < b.jobs.length
  entries : ∀ (i : Nat) (x : Entry), b.jobs[i]? = some x →
    b'.jobs[i]? = some { x with
      consumers := x.consumers ++
        List.replicate (if x.state.isTerminal then 0 else ds.count i) index }
  own : e' = { e with outstanding := e'.outstanding, blocked := e'.blocked }
  outstanding : e'.outstanding + places b.jobs index = e.outstanding + places b'.jobs index
  places : ∀ c, c ≠ index → places b'.jobs c = places b.jobs c
  blocked : e'.blocked = e.blocked.or (ds.findSome? b.blocksOf)

namespace SignedUp

variable {index : Nat} {ds : List Nat} {e e' : Entry} {b b' : Books}

theorem nil (index : Nat) (e : Entry) (b : Books) : SignedUp index [] e e b b := by
  constructor <;> simp

/-- One dependency that is at an end. -/
theorem cons_ended {d : Nat} {dep : Entry} (found : b.jobs[d]? = some dep)
    (ended : dep.state.isTerminal = true)
    (rest : SignedUp index ds { e with blocked := e.blocked.or dep.state.blocks } e' b b') :
    SignedUp index (d :: ds) e e' b b' := by
  refine ⟨rest.frame, rest.length, ?_, ?_, rest.own, rest.outstanding, rest.places, ?_⟩
  · exact List.forall_mem_cons.mpr ⟨(List.getElem?_eq_some_iff.mp found).1, rest.known⟩
  · intro i x foundx
    rw [rest.entries i x foundx]
    by_cases same : d = i
    · subst same
      rw [found, Option.some.injEq] at foundx
      subst foundx
      simp [ended]
    · simp [same]
  · rw [rest.blocked, Option.or_assoc, List.findSome?_cons, blocksOf_eq (stateOf_eq found)]
    cases dep.state.blocks <;> rfl

/-- One dependency that is not at an end. -/
theorem cons_live {d : Nat} {dep : Entry} (found : b.jobs[d]? = some dep)
    (live : dep.state.isTerminal = false)
    (rest : SignedUp index ds { e with outstanding := e.outstanding + 1 } e'
      { b with jobs := b.jobs.set d { dep with consumers := dep.consumers ++ [index] } } b') :
    SignedUp index (d :: ds) e e' b b' := by
  have inRange := (List.getElem?_eq_some_iff.mp found).1
  have sum (c : Nat) := places_set (y := { dep with consumers := dep.consumers ++ [index] }) found c
  have states (i : Nat) : ({ b with
      jobs := b.jobs.set d { dep with consumers := dep.consumers ++ [index] } } : Books).stateOf i =
      b.stateOf i := by
    rw [Books.stateOf, Books.stateOf, List.getElem?_set]
    by_cases same : d = i
    · rw [if_pos same, if_pos (by simpa using inRange), ← same, found]
      rfl
    · rw [if_neg same]
  refine ⟨?_, by rw [rest.length, List.length_set], ?_, ?_, rest.own, ?_, ?_, ?_⟩
  · rw [rest.frame]
  · refine List.forall_mem_cons.mpr ⟨inRange, fun c mem => ?_⟩
    simpa using rest.known c mem
  · intro i x foundx
    by_cases same : d = i
    · subst same
      rw [found, Option.some.injEq] at foundx
      subst foundx
      rw [rest.entries d { dep with consumers := dep.consumers ++ [index] } (by simp [inRange])]
      simp [live, List.replicate_succ]
    · rw [rest.entries i x (by simpa [same] using foundx)]
      simp [same]
  · have total := rest.outstanding
    have here := sum index
    simp only [List.count_append, List.count_singleton_self] at total here
    omega
  · intro c ne
    rw [rest.places c ne]
    have here := sum c
    simp only [List.count_append, List.count_singleton, beq_iff_eq, Ne.symm ne, if_false] at here
    simp only
    omega
  · have noBlock : b.blocksOf d = none := blocksOf_live found live
    rw [rest.blocked, List.findSome?_cons, noBlock]
    exact congrArg _ (congrArg (ds.findSome? ·) (funext fun i => blocksOf_congr (states i)))

end SignedUp

/-- A job is refused exactly for a dependency that is not in the books. -/
theorem signUp_cases (index : Nat) (ds : List Nat) (e : Entry) (b : Books) :
    (∃ e' b', signUp index ds e b = (.ok e', b') ∧ SignedUp index ds e e' b b') ∨
      ∃ d ∈ ds, b.jobs.length ≤ d ∧ ∃ b', signUp index ds e b = (.error ⟨index, d⟩, b') := by
  induction ds generalizing e b with
  | nil => exact .inl ⟨e, b, rfl, .nil index e b⟩
  | cons d ds ih =>
    rw [signUp]
    cases found : b.jobs[d]? with
    | none =>
      refine .inr ⟨d, List.mem_cons_self .., ?_, b, rfl⟩
      rwa [← List.getElem?_eq_none_iff]
    | some dep =>
      cases ended : dep.state.isTerminal with
      | true =>
        rcases ih { e with blocked := e.blocked.or dep.state.blocks } b with
          ⟨e', b', eq, rest⟩ | ⟨d', mem, far, b', eq⟩
        · exact .inl ⟨e', b', by simpa [ended] using eq, rest.cons_ended found ended⟩
        · exact .inr ⟨d', List.mem_cons_of_mem _ mem, far, b', by simpa [ended] using eq⟩
      | false =>
        rcases ih { e with outstanding := e.outstanding + 1 }
            { b with jobs := b.jobs.set d { dep with consumers := dep.consumers ++ [index] } } with
          ⟨e', b', eq, rest⟩ | ⟨d', mem, far, b', eq⟩
        · exact .inl ⟨e', b', by simpa [ended] using eq, rest.cons_live found ended⟩
        · exact .inr ⟨d', List.mem_cons_of_mem _ mem, by simpa using far, b',
            by simpa [ended] using eq⟩

/-! ## The new entry -/

/-- The books `b'` after a job with these dependencies was added behind the others as the entry
`e`. -/
structure Added (ds : List Nat) (e : Entry) (b b' : Books) : Prop where
  known : ∀ d ∈ ds, d < b.jobs.length
  length : b'.jobs.length = b.jobs.length + 1
  old : ∀ (i : Nat) (x : Entry), b.jobs[i]? = some x →
    b'.jobs[i]? = some { x with
      consumers := x.consumers ++
        List.replicate (if x.state.isTerminal then 0 else ds.count i) b.jobs.length }
  new : b'.jobs[b.jobs.length]? = some e
  alone : e.consumers = []
  outstanding : e.outstanding + places b.jobs b.jobs.length = places b'.jobs b.jobs.length
  places : ∀ c, c ≠ b.jobs.length → places b'.jobs c = places b.jobs c
  blocked : e.blocked = ds.findSome? b.blocksOf
  state : e.state = match b.halted with
    | some cause => .skipped (e.blocked.getD cause)
    | none => .pending
  frame : b' = { b with jobs := b'.jobs, ready := b'.ready, unfinished := b'.unfinished }
  ready : b'.ready =
    if b.halted = none ∧ e.outstanding = 0 then b.ready ++ [b.jobs.length] else b.ready
  unfinished : b'.unfinished = b.unfinished + if b.halted = none then 1 else 0

theorem signUp_continueOnError (index : Nat) (ds : List Nat) (e : Entry) (b : Books) :
    (signUp index ds e b).2.continueOnError = b.continueOnError := by
  fun_induction signUp index ds e b with
  | case1 | case2 => rfl
  | case3 _ _ _ _ _ _ _ ih | case4 _ _ _ _ _ _ _ ih => exact ih

theorem addJob_continueOnError (b : Books) (ds : List Nat) :
    (b.addJob ds).2.continueOnError = b.continueOnError := by
  have kept := signUp_continueOnError b.jobs.length ds {} b
  rw [addJob]
  split <;> rename_i signed <;> rw [signed] at kept
  · exact kept
  · rw [← kept, enter]
    split <;> rfl

/-- A job behind jobs that are all in the books is taken in. -/
theorem addJob_ok {ds : List Nat} {b : Books} (known : ∀ d ∈ ds, d < b.jobs.length) :
    ∃ e b', b.addJob ds = (.ok b.jobs.length, b') ∧ Added ds e b b' := by
  rcases signUp_cases b.jobs.length ds {} b with ⟨e, b₁, eq, signed⟩ | ⟨d, mem, far, _⟩
  case inr =>
    have := known d mem
    omega
  have alone : e.consumers = [] := by rw [signed.own]
  have pending : e.state = .pending := by rw [signed.own]
  have outstanding : e.outstanding + places b.jobs b.jobs.length =
      places b₁.jobs b.jobs.length := by simpa using signed.outstanding
  have block : e.blocked = ds.findSome? b.blocksOf := by simpa using signed.blocked
  have halted : b₁.halted = b.halted := by rw [signed.frame]
  have old (new : Entry) (i : Nat) (x : Entry) (found : b.jobs[i]? = some x) :
      (b₁.jobs ++ [new])[i]? = some { x with
        consumers := x.consumers ++
          List.replicate (if x.state.isTerminal then 0 else ds.count i) b.jobs.length } := by
    rw [List.getElem?_append_left, signed.entries i x found]
    rw [signed.length]
    exact (List.getElem?_eq_some_iff.mp found).1
  cases closed : b.halted with
  | some cause =>
    let e' := { e with state := .skipped (e.blocked.getD cause) }
    refine ⟨e', { b₁ with jobs := b₁.jobs ++ [e'] }, ?_, known, ?_, old e', ?_, alone, ?_, ?_,
      block, ?_, ?_, ?_, ?_⟩
    · rw [addJob, eq]
      simp only [enter, halted, closed, signed.length]
      rfl
    · simp [signed.length]
    · simp [← signed.length]
    · simp [outstanding, e', alone]
    · intro c ne
      simp [signed.places c ne, e', alone]
    · rw [closed]
    · rw [signed.frame]
    · rw [signed.frame]
      simp [closed]
    · rw [signed.frame]
      simp [closed]
  | none =>
    refine ⟨e, b₁.enter e, ?_, known, ?_, ?_, ?_, alone, ?_, ?_, block, ?_, ?_, ?_, ?_⟩
    · rw [addJob, eq]
      simp only [signed.length]
    · simp [enter, halted, closed, signed.length]
    · simpa [enter, halted, closed] using old e
    · simp [enter, halted, closed, ← signed.length]
    · simp [enter, halted, closed, outstanding, alone]
    · intro c ne
      simp [enter, halted, closed, signed.places c ne, alone]
    · rw [closed, pending]
    · simp only [enter, halted, closed]
      rw [signed.frame]
    · have ready : b₁.ready = b.ready := by rw [signed.frame]
      simp [enter, halted, closed, ready, signed.length]
    · have unfinished : b₁.unfinished = b.unfinished := by rw [signed.frame]
      simp [enter, halted, closed, unfinished]

/-- A job behind one that is not in the books is refused. -/
theorem addJob_refused {ds : List Nat} {b : Books} {d : Nat} (mem : d ∈ ds)
    (far : b.jobs.length ≤ d) : ∃ u b', b.addJob ds = (.error u, b') := by
  rcases signUp_cases b.jobs.length ds {} b with ⟨e, b₁, eq, signed⟩ | ⟨d', _, _, b', eq⟩
  · have := signed.known d mem
    omega
  · exact ⟨_, b', by rw [addJob, eq]⟩

/-! ## The books after a job is added -/

namespace Added

variable {ds : List Nat} {e : Entry} {b b' : Books}

theorem state_cases (added : Added ds e b b') :
    (b.halted = none ∧ e.state = .pending) ∨
      ∃ cause, b.halted = some cause ∧ e.state = .skipped (e.blocked.getD cause) := by
  have state := added.state
  cases halted : b.halted with
  | none => exact .inl ⟨rfl, by rw [state, halted]⟩
  | some cause => exact .inr ⟨cause, rfl, by rw [state, halted]⟩

theorem cases (added : Added ds e b b') {i : Nat} {x' : Entry} (found : b'.jobs[i]? = some x') :
    (i = b.jobs.length ∧ x' = e) ∨
      (i < b.jobs.length ∧ ∃ x, b.jobs[i]? = some x ∧ x' = { x with
        consumers := x.consumers ++
          List.replicate (if x.state.isTerminal then 0 else ds.count i) b.jobs.length }) := by
  have inRange := (List.getElem?_eq_some_iff.mp found).1
  rw [added.length] at inRange
  by_cases last : i = b.jobs.length
  · subst last
    rw [added.new, Option.some.injEq] at found
    exact .inl ⟨rfl, found.symm⟩
  · have old : i < b.jobs.length := by omega
    have before := List.getElem?_eq_getElem old
    rw [added.old i _ before, Option.some.injEq] at found
    exact .inr ⟨old, _, before, found.symm⟩

theorem stateOf_old (added : Added ds e b b') {i : Nat} (h : i < b.jobs.length) :
    b'.stateOf i = b.stateOf i := by
  have before := List.getElem?_eq_getElem h
  rw [stateOf_eq before, stateOf_eq (added.old i _ before)]

theorem stateOf_new (added : Added ds e b b') : b'.stateOf b.jobs.length = some e.state :=
  stateOf_eq added.new

theorem states (added : Added ds e b b') : b'.states = b.states ++ [e.state] := by
  have length : b.states.length = b.jobs.length := List.length_map ..
  apply List.ext_getElem?
  intro i
  rw [getElem?_states]
  rcases Nat.lt_trichotomy i b.jobs.length with lt | rfl | gt
  · rw [List.getElem?_append_left (by omega), getElem?_states, added.stateOf_old lt]
  · rw [← length, List.getElem?_concat_length, length, added.stateOf_new]
  · rw [List.getElem?_eq_none (by simp; omega), stateOf, List.getElem?_eq_none (by
      rw [added.length]; omega), Option.map_none]

theorem halted (added : Added ds e b b') : b'.halted = b.halted := by rw [added.frame]

/-- Dependencies of jobs that were there before, and the block of the new one. -/
theorem blocksOf_old (added : Added ds e b b') {i : Nat} (h : i < b.jobs.length) :
    b'.blocksOf i = b.blocksOf i := blocksOf_congr (added.stateOf_old h)

end Added

/-! ## The dependencies after a job is added -/

namespace Tied

variable {deps : List (List Nat)} {b b' : Books} {ds : List Nat} {e : Entry}

theorem concat_old (tied : Tied deps b) (ds : List Nat) {c : Nat} (h : c < b.jobs.length) :
    (deps ++ [ds])[c]?.getD [] = deps[c]?.getD [] := by
  rw [List.getElem?_append_left (tied.length ▸ h)]

theorem concat_new (tied : Tied deps b) (ds : List Nat) :
    (deps ++ [ds])[b.jobs.length]?.getD [] = ds := by
  simp [← tied.length]

theorem concat_beyond (tied : Tied deps b) (ds : List Nat) {c : Nat} (h : b.jobs.length < c) :
    (deps ++ [ds])[c]?.getD [] = [] := by
  rw [List.getElem?_eq_none (by simp [tied.length]; omega), Option.getD_none]

theorem earlier_of_added (tied : Tied deps b) (added : Added ds e b b') (j d : Nat)
    (named : d ∈ (deps ++ [ds])[j]?.getD []) : d < j := by
  rcases Nat.lt_trichotomy j b.jobs.length with lt | rfl | gt
  · exact tied.earlier j d (tied.concat_old ds lt ▸ named)
  · exact added.known d (tied.concat_new ds ▸ named)
  · rw [tied.concat_beyond ds gt] at named
    cases named

/-- Whatever a job names was in the books before the last job was added. -/
theorem known_of_added (tied : Tied deps b) (added : Added ds e b b') {c d : Nat} {x : Entry}
    (found : b'.jobs[c]? = some x) (named : d ∈ (deps ++ [ds])[c]?.getD []) :
    d < b.jobs.length := by
  have inRange := (List.getElem?_eq_some_iff.mp found).1
  have := tied.earlier_of_added added c d named
  rw [added.length] at inRange
  omega

theorem consumers_of_added (tied : Tied deps b) (added : Added ds e b b') {i : Nat} {x' : Entry}
    (found : b'.jobs[i]? = some x') (live : x'.state.isTerminal = false) (c : Nat) :
    x'.consumers.count c = ((deps ++ [ds])[c]?.getD []).count i := by
  rcases added.cases found with ⟨rfl, rfl⟩ | ⟨inRange, x, foundx, rfl⟩
  · rw [added.alone, List.count_nil]
    refine (List.count_eq_zero_of_not_mem fun named => ?_).symm
    rcases Nat.lt_trichotomy c b.jobs.length with lt | rfl | gt
    · have := tied.earlier_of_added added c _ named
      omega
    · have := tied.earlier_of_added added _ _ named
      omega
    · rw [tied.concat_beyond ds gt] at named
      cases named
  · have before := tied.consumers i x foundx live c
    simp only [live, Bool.false_eq_true, if_false, List.count_append, List.count_replicate, before]
    rcases Nat.lt_trichotomy c b.jobs.length with lt | rfl | gt
    · rw [tied.concat_old ds lt]
      simp [Nat.ne_of_gt lt]
    · rw [tied.concat_new ds, List.getElem?_eq_none (Nat.le_of_eq tied.length)]
      simp
    · have far : deps.length ≤ c := by
        rw [tied.length]
        omega
      rw [tied.concat_beyond ds gt, List.getElem?_eq_none far]
      simp [Nat.ne_of_lt gt]

/-- A block of the new job comes from one that it names. -/
theorem blocked_of_added (tied : Tied deps b) (added : Added ds e b b') {cause : SkipCause}
    (block : e.blocked = some cause) :
    ∃ d ∈ (deps ++ [ds])[b.jobs.length]?.getD [], b'.blocksOf d = some cause := by
  rw [added.blocked] at block
  obtain ⟨d, named, blocks⟩ := List.exists_of_findSome?_eq_some block
  refine ⟨d, ?_, by rw [added.blocksOf_old (added.known d named), blocks]⟩
  rw [tied.concat_new]
  exact named

theorem skipped_of_added (tied : Tied deps b) (added : Added ds e b b') {cause : SkipCause}
    (skip : e.state = .skipped cause) : b.halted = some cause ∨
      ∃ d ∈ (deps ++ [ds])[b.jobs.length]?.getD [], b'.blocksOf d = some cause := by
  rcases added.state_cases with ⟨_, pending⟩ | ⟨cause', closed, skipped⟩
  · rw [pending] at skip
    cases skip
  · rw [skipped, JobState.skipped.injEq] at skip
    cases block : e.blocked with
    | none =>
      rw [block, Option.getD_none] at skip
      exact .inl (by rw [closed, skip])
    | some cause'' =>
      rw [block, Option.getD_some] at skip
      subst skip
      exact .inr (tied.blocked_of_added added block)

/-- A block of an old job is what it was. -/
theorem blocks_of_added (tied : Tied deps b) (added : Added ds e b b') {c : Nat}
    (inRange : c < b.jobs.length) {cause : SkipCause}
    (blocks : ∃ d ∈ deps[c]?.getD [], b.blocksOf d = some cause) :
    ∃ d ∈ (deps ++ [ds])[c]?.getD [], b'.blocksOf d = some cause := by
  obtain ⟨d, named, blocks⟩ := blocks
  refine ⟨d, (tied.concat_old ds inRange).symm ▸ named, ?_⟩
  rw [added.blocksOf_old (tied.lt_length inRange named), blocks]

theorem add (tied : Tied deps b) (added : Added ds e b b') : Tied (deps ++ [ds]) b' := by
  constructor
  case length => simp [tied.length, added.length]
  case earlier => exact tied.earlier_of_added added
  case consumers => exact fun i x' => tied.consumers_of_added added
  case outstanding =>
    intro c x' found
    rcases added.cases found with ⟨rfl, rfl⟩ | ⟨inRange, x, foundx, rfl⟩
    · have sum := added.outstanding
      have := tied.fresh b.jobs.length (Nat.le_refl _)
      omega
    · rw [added.places c (by omega)]
      exact tied.outstanding c x foundx
  case fresh =>
    intro c far
    rw [added.length] at far
    rw [added.places c (by omega)]
    exact tied.fresh c (by omega)
  case closed =>
    intro unhalted i x' found terminal
    rw [added.halted] at unhalted
    rcases added.cases found with ⟨rfl, rfl⟩ | ⟨inRange, x, foundx, rfl⟩
    · exact added.alone
    · simp only at terminal
      simp [terminal, tied.closed unhalted i x foundx terminal]
  case unblocked =>
    intro c x' found pending free d named
    rw [added.blocksOf_old (tied.known_of_added added found named)]
    rcases added.cases found with ⟨rfl, rfl⟩ | ⟨inRange, x, foundx, rfl⟩
    · rw [tied.concat_new] at named
      rw [added.blocked, List.findSome?_eq_none_iff] at free
      exact free d named
    · rw [tied.concat_old ds inRange] at named
      exact tied.unblocked c x foundx pending free d named
  case blocked =>
    intro c x' cause found block
    rcases added.cases found with ⟨rfl, rfl⟩ | ⟨inRange, x, foundx, rfl⟩
    · exact tied.blocked_of_added added block
    · exact tied.blocks_of_added added inRange (tied.blocked c x cause foundx block)
  case begun =>
    intro c x' found begun d named
    rw [added.stateOf_old (tied.known_of_added added found named)]
    rcases added.cases found with ⟨rfl, rfl⟩ | ⟨inRange, x, foundx, rfl⟩
    · rcases added.state_cases with ⟨_, h⟩ | ⟨cause, _, h⟩ <;> rw [h] at begun <;> cases begun
    · rw [tied.concat_old ds inRange] at named
      exact tied.begun c x foundx begun d named
  case skipped =>
    intro c x' cause found skip
    rw [added.halted]
    rcases added.cases found with ⟨rfl, rfl⟩ | ⟨inRange, x, foundx, rfl⟩
    · exact .inr (tied.skipped_of_added added skip)
    · rcases tied.skipped c x cause foundx skip with h | h | blocks
      · exact .inl h
      · exact .inr (.inl h)
      · exact .inr (.inr (tied.blocks_of_added added inRange blocks))
  case stopped =>
    intro halted c x' found
    rw [added.halted] at halted
    rcases added.cases found with ⟨rfl, rfl⟩ | ⟨inRange, x, foundx, rfl⟩
    · rcases added.state_cases with ⟨unhalted, _⟩ | ⟨cause, _, h⟩
      · rw [unhalted] at halted
        cases halted
      · rw [h]
        rintro ⟨⟩
    · exact tied.stopped halted c x foundx

end Tied

end Books

end KeyFlow
