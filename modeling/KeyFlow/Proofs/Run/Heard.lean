import KeyFlow.Lifecycle
import KeyFlow.Proofs.Run.Spoken
import KeyFlow.Proofs.Run.Told

/-!
What emitters are told in a run, by whom. A job that speaks when it ends is heard once if it was
started, and not at all otherwise; besides the jobs only samples of the scheduler's state are told.
-/

namespace KeyFlow

namespace Sinks

/-- The sinks come from the left to the right while this is told, in this order. In between bodies
write notes. -/
inductive Heard (tell : Happening → Sinks → Sinks) (s : Sinks) : List Happening → Sinks → Prop
  | nothing : Heard tell s [] s
  | note {hs : List Happening} {s' : Sinks} (heard : Heard tell s hs s') (n : Note) :
    Heard tell s hs (s'.note n)
  | told {hs : List Happening} {s' : Sinks} (heard : Heard tell s hs s') (h : Happening) :
    Heard tell s (hs ++ [h]) (tell h s')

variable {tell : Happening → Sinks → Sinks} {s s' s'' : Sinks} {hs hs' : List Happening}

theorem Heard.trans (first : Heard tell s hs s') (rest : Heard tell s' hs' s'') :
    Heard tell s (hs ++ hs') s'' := by
  induction rest with
  | nothing =>
    rw [List.append_nil]
    exact first
  | note _ n ih => exact .note ih n
  | told _ h ih =>
    rw [← List.append_assoc]
    exact .told ih h

theorem Heard.one (h : Happening) : Heard tell s [h] (tell h s) := .told .nothing h

theorem Heard.all (hs : List Happening) : Heard tell s hs (Lifecycle.tellAll tell hs s) := by
  induction hs generalizing s with
  | nil => exact .nothing
  | cons h hs ih => exact .trans (.one h) ih

/-- What the recorder of this name has heard of the flow. -/
def heardBy (recorder flow : String) (s : Sinks) : List Happening :=
  s.events.filterMap fun
    | .heard name flow' h => if name = recorder ∧ flow' = flow then some h else none
    | _ => none

theorem heardBy_write (recorder flow : String) (s : Sinks) (e : Event) :
    (s.write e).heardBy recorder flow = s.heardBy recorder flow ++
      (match e with
        | .heard name flow' h => if name = recorder ∧ flow' = flow then some h else none
        | _ => none).toList := by
  rw [heardBy, write, List.filterMap_append]
  congr 1

end Sinks

namespace Emitter

mutual

/-- The recorders that hear what this emitter hears, and whether they sample states. -/
def recorders : Emitter → List (String × Bool)
  | .silent | .log | .transcriber .. => []
  | .recorder name samples => [(name, samples)]
  | .stack emitters => allRecorders emitters

def allRecorders : List Emitter → List (String × Bool)
  | [] => []
  | e :: es => e.recorders ++ allRecorders es

end

/-- There is one recorder of this name. -/
def Records (e : Emitter) (name : String) (samples : Bool) : Prop :=
  e.recorders.filter (·.1 = name) = [(name, samples)]

/-- What these recorders add to the record of this name when they are told something. -/
def recorded (name : String) (h : Happening) (recorders : List (String × Bool)) : List Happening :=
  ((recorders.filter (·.1 = name)).filter fun r => wants r.2 h).map fun _ => h

theorem recorded_append (name : String) (h : Happening) (rs rs' : List (String × Bool)) :
    recorded name h (rs ++ rs') = recorded name h rs ++ recorded name h rs' := by
  rw [recorded, List.filter_append, List.filter_append, List.map_append]
  rfl

mutual

theorem hear_heardBy (name flow : String) (h : Happening) : ∀ (e : Emitter) (s : Sinks),
    (e.hear flow h s).heardBy name flow = s.heardBy name flow ++ recorded name h e.recorders
  | .silent, s => by simp [hear, recorders, recorded]
  | .log, s => by
    rw [hear]
    cases LogRecord.ofHappening flow h with
    | none => simp [recorders, recorded]
    | some r => simp [Sinks.heardBy_write, recorders, recorded]
  | .recorder other samples, s => by
    rw [hear, recorders]
    by_cases wanted : wants samples h = true
    · by_cases same : other = name
      · simp [Sinks.heardBy_write, recorded, wanted, same]
      · simp [Sinks.heardBy_write, recorded, wanted, same]
    · by_cases same : other = name <;> simp [recorded, wanted, same]
  | .transcriber number samples, s => by
    rw [hear, recorders]
    split <;> simp [recorded, Sinks.transcribe, Sinks.heardBy]
  | .stack emitters, s => by
    rw [hear, recorders]
    exact hearAll_heardBy name flow h emitters s

theorem hearAll_heardBy (name flow : String) (h : Happening) : ∀ (es : List Emitter) (s : Sinks),
    (hearAll flow h es s).heardBy name flow = s.heardBy name flow ++
      recorded name h (allRecorders es)
  | [], s => by simp [hearAll, allRecorders, recorded]
  | e :: es, s => by
    rw [hearAll, allRecorders, hearAll_heardBy name flow h es, hear_heardBy name flow h e,
      recorded_append, List.append_assoc]

end

/-- A recorder hears all that is told and that it wants. -/
theorem Records.heardBy {e : Emitter} {name flow : String} {samples : Bool}
    (records : e.Records name samples) {s s' : Sinks} {hs : List Happening}
    (heard : Sinks.Heard (e.hear flow) s hs s') :
    s'.heardBy name flow = s.heardBy name flow ++ hs.filter (wants samples) := by
  induction heard with
  | nothing => exact (List.append_nil _).symm
  | note _ n ih =>
    rw [Sinks.note, Sinks.heardBy_write, ih]
    exact List.append_nil _
  | told _ h ih =>
    rw [hear_heardBy, ih, List.filter_append, List.append_assoc]
    congr 2
    rw [recorded, records, List.filter_singleton, List.filter_singleton]
    cases wants samples h <;> rfl

end Emitter

namespace Machine

variable {σ : Type} {start m m' : Machine σ} {deps : List (List Nat)} {job : Nat}
  {tell : Happening → Sinks → Sinks} {sinks : σ → Sinks} {speech : Nat → List Happening}

/-- The job says nothing until it ends, and then this. -/
structure Speaks (tell : Happening → Sinks → Sinks) (sinks : σ → Sinks) (start : Machine σ)
    (job : Nat) (speech : List Happening) : Prop where
  paused : ∀ (m : Machine σ) rest body, Comes start m → m.busy = false → m.Polls job rest body →
    (∀ c, (body.advance (m.world job)).1 ≠ .ended c) →
    Sinks.Heard tell (sinks m.shared) [] (sinks (body.advance (m.world job)).2.shared)
  ended : ∀ (m : Machine σ) rest body c, Comes start m → m.busy = false →
    m.Polls job rest body → (body.advance (m.world job)).1 = .ended c →
    Sinks.Heard tell (sinks m.shared) speech (sinks (body.advance (m.world job)).2.shared)

/-- Samples of the scheduler's state are told, and nothing else comes of them. -/
def TellsSamples (tell : Happening → Sinks → Sinks) (sinks : σ → Sinks) (m : Machine σ) : Prop :=
  ∀ sampling, m.sampling = some sampling → ∀ clock snapshot s,
    sinks (sampling.observe clock snapshot s) = tell (.state clock snapshot) (sinks s)

theorem Reaches.observe (h : Reaches m m') (sampling : Sampling σ)
    (on : m'.sampling = some sampling) :
    ∃ first, m.sampling = some first ∧ sampling.observe = first.observe := by
  refine h.keeps (P := fun m' => ∀ sampling, m'.sampling = some sampling →
    ∃ first, m.sampling = some first ∧ sampling.observe = first.observe) ?_
    (fun sampling on => ⟨sampling, on, rfl⟩) sampling on
  intro m₁ m₂ before move sampling on
  cases move with
  | @polled job rest body polls => exact before sampling ((m₁.ranOn_rest job rest body).1 ▸ on)
  | quiet quiet =>
    cases quiet with
    | sampled =>
      unfold sample at on
      split at on
      · rename_i old found
        cases on
        exact before old found
      · exact before sampling on
    | woken job =>
      unfold wake at on
      split at on <;> exact before sampling on
    | _ => exact before sampling on

/-- What was told since the start, and who said it; nobody says what the scheduler samples. -/
structure Spoken (tell : Happening → Sinks → Sinks) (sinks : σ → Sinks)
    (speech : Nat → List Happening) (start m : Machine σ) (told : List (Option Nat × Happening)) :
    Prop where
  heard : Sinks.Heard tell (sinks start.shared) (told.map (·.2)) (sinks m.shared)
  ended : ∀ job, m.slots[job]? = some .spent → spokenBy (some job) told = speech job
  silent : ∀ job, m.slots[job]? ≠ some .spent → spokenBy (some job) told = []
  samples : ∀ h, (none, h) ∈ told → ∃ clock snapshot, h = .state clock snapshot

theorem Spoken.aside {told : List (Option Nat × Happening)}
    (spoken : Spoken tell sinks speech start m told) {h : Happening} (mem : (none, h) ∈ told) :
    h.IsAside := by
  obtain ⟨_, _, rfl⟩ := spoken.samples h mem
  trivial

/-- A job only says what it has to say. -/
theorem Spoken.mem_speech {told : List (Option Nat × Happening)}
    (spoken : Spoken tell sinks speech start m told) {h : Happening}
    (mem : (some job, h) ∈ told) : h ∈ speech job := by
  have heard := mem_spokenBy.mpr mem
  by_cases spent : m.slots[job]? = some .spent
  · rwa [spoken.ended job spent] at heard
  · rw [spoken.silent job spent] at heard
    cases heard

/-- What a quiet move does to the slots does not spend one. -/
theorem Quiet.spent_iff (quiet : Quiet m m') (job : Nat) :
    m'.slots[job]? = some .spent ↔ m.slots[job]? = some .spent := by
  rcases quiet.slot job with same | ⟨old, new, found, found', moved, unqueued⟩
  · rw [same]
  · rw [found, found', Option.some.injEq, Option.some.injEq]
    constructor
    · rintro rfl
      cases moved with
      | ended p => exact absurd rfl (unqueued p)
    · rintro rfl
      cases moved

theorem Spoken.quiet {told : List (Option Nat × Happening)}
    (spoken : Spoken tell sinks speech start m told) (samples : TellsSamples tell sinks m)
    (quiet : Quiet m m') : ∃ told', Spoken tell sinks speech start m' told' := by
  have ended : ∀ job, m'.slots[job]? = some .spent → spokenBy (some job) told = speech job :=
    fun job spent => spoken.ended job ((quiet.spent_iff job).mp spent)
  have silent : ∀ job, m'.slots[job]? ≠ some .spent → spokenBy (some job) told = [] :=
    fun job unspent => spoken.silent job fun spent => unspent ((quiet.spent_iff job).mpr spent)
  cases quiet with
  | sampled =>
    cases on : m.sampling with
    | none =>
      rw [sample, on] at *
      exact ⟨told, spoken⟩
    | some sampling =>
      have same : m.sample.shared = sampling.observe m.clock m.books.snapshot m.shared := by
        rw [sample, on]
      have apart (job : Nat) : spokenBy (some job)
          [((none : Option Nat), Happening.state m.clock m.books.snapshot)] = [] := rfl
      refine ⟨told ++ [(none, .state m.clock m.books.snapshot)], ?_, fun job spent => ?_,
        fun job unspent => ?_, fun h mem => ?_⟩
      · rw [same, samples sampling on, List.map_append]
        exact .told spoken.heard _
      · rw [spokenBy_append, apart, List.append_nil, ended job spent]
      · rw [spokenBy_append, apart, List.append_nil, silent job unspent]
      · rcases List.mem_append.mp mem with before | now
        · exact spoken.samples h before
        · cases List.mem_singleton.mp now
          exact ⟨_, _, rfl⟩
  | woken job =>
    refine ⟨told, ?_, ended, silent, spoken.samples⟩
    have same : (m.wake job).shared = m.shared := by
      unfold wake
      split <;> rfl
    rw [same]
    exact spoken.heard
  | _ => exact ⟨told, spoken.heard, ended, silent, spoken.samples⟩

section polled

variable {told : List (Option Nat × Happening)} {rest : List Nat} {body : JobBody σ}
  {c : Conclusion}

theorem Spoken.silent_of_polls (spoken : Spoken tell sinks speech start m told)
    (polls : m.Polls job rest body) : spokenBy (some job) told = [] := by
  refine spoken.silent job ?_
  rw [polls.slot]
  nofun

/-- A job that pauses has said nothing yet. -/
theorem Spoken.pauses (spoken : Spoken tell sinks speech start m told)
    (polls : m.Polls job rest body) (paused : ∀ c, (body.advance (m.world job)).1 ≠ .ended c)
    (heard : Sinks.Heard tell (sinks m.shared) []
      (sinks (body.advance (m.world job)).2.shared)) :
    Spoken tell sinks speech start (m.ranOn job rest body) told := by
  have slots := m.ranOn_slots job rest body
  have alive : (m.ranOn job rest body).slots[job]? ≠ some .spent := by
    rw [slot_set_self polls.slot slots]
    intro spent
    cases pause : (body.advance (m.world job)).1 with
    | ended c => exact paused c pause
    | asleep | awaiting =>
      rw [pause] at spent
      cases spent
  refine ⟨?_, fun i spent => ?_, fun i unspent => ?_, spoken.samples⟩
  · rw [(m.ranOn_rest job rest body).2]
    simpa using spoken.heard.trans heard
  · by_cases same : i = job
    · exact absurd (same ▸ spent) alive
    · exact spoken.ended i (slot_set_ne slots same ▸ spent)
  · by_cases same : i = job
    · exact same ▸ spoken.silent_of_polls polls
    · exact spoken.silent i (slot_set_ne slots same ▸ unspent)

/-- A job that ends says what it says. -/
theorem Spoken.ends (spoken : Spoken tell sinks speech start m told)
    (polls : m.Polls job rest body) (ended : (body.advance (m.world job)).1 = .ended c)
    (heard : Sinks.Heard tell (sinks m.shared) (speech job)
      (sinks (body.advance (m.world job)).2.shared)) :
    Spoken tell sinks speech start (m.ranOn job rest body)
      (told ++ (speech job).map (some job, ·)) := by
  have slots := m.ranOn_slots job rest body
  have others {i : Nat} (ne : i ≠ job) : spokenBy (some i) ((speech job).map (some job, ·)) = [] :=
    spokenBy_other (fun is => ne (Option.some.inj is).symm) _
  refine ⟨?_, fun i spent => ?_, fun i unspent => ?_, fun h mem => ?_⟩
  · rw [(m.ranOn_rest job rest body).2, List.map_append, List.map_map, Function.comp_def,
      List.map_id']
    exact spoken.heard.trans heard
  · rw [spokenBy_append]
    by_cases same : i = job
    · subst same
      rw [spoken.silent_of_polls polls, spokenBy_self, List.nil_append]
    · rw [others same, List.append_nil]
      exact spoken.ended i (slot_set_ne slots same ▸ spent)
  · rw [spokenBy_append]
    by_cases same : i = job
    · subst same
      rw [slot_set_self polls.slot slots, ended] at unspent
      exact absurd rfl unspent
    · rw [others same, List.append_nil]
      exact spoken.silent i (slot_set_ne slots same ▸ unspent)
  · rcases List.mem_append.mp mem with before | now
    · exact spoken.samples h before
    · obtain ⟨_, _, no⟩ := List.mem_map.mp now
      cases no

theorem Spoken.polled (spoken : Spoken tell sinks speech start m told)
    (speaks : Speaks tell sinks start job (speech job)) (comes : Comes start m)
    (resting : m.busy = false) (polls : m.Polls job rest body) :
    ∃ told', Spoken tell sinks speech start (m.ranOn job rest body) told' := by
  by_cases paused : ∀ c, (body.advance (m.world job)).1 ≠ .ended c
  · exact ⟨told,
      spoken.pauses polls paused (speaks.paused m rest body comes resting polls paused)⟩
  · rw [not_forall_not] at paused
    obtain ⟨c, ended⟩ := paused
    exact ⟨_, spoken.ends polls ended (speaks.ended m rest body c comes resting polls ended)⟩

end polled

/-- In a run that finished, each job that was started has said what it says, and no other job said
anything. -/
theorem spoken_of_run {last : Machine σ} (kept : Kept deps start)
    (run : start.run = .finished last) (samples : TellsSamples tell sinks start)
    (speaks : ∀ job, Speaks tell sinks start job (speech job))
    (unspent : ∀ job : Nat, start.slots[job]? ≠ some .spent) :
    ∃ told, Spoken tell sinks speech start last told := by
  have on {m : Machine σ} (reached : Reaches start m) : TellsSamples tell sinks m := by
    intro sampling on clock snapshot s
    obtain ⟨first, on', same⟩ := reached.observe sampling on
    rw [same]
    exact samples first on' clock snapshot s
  refine kept.run_keeps (P := fun m => ∃ told, Spoken tell sinks speech start m told) ?_ ?_ run
    ⟨[], .nothing, fun job spent => absurd spent (unspent job), fun _ _ => rfl, nofun⟩
  · rintro m m' reached quiet ⟨told, spoken⟩
    exact spoken.quiet (on reached) quiet
  · rintro m job rest body comes resting polls ⟨told, spoken⟩
    exact spoken.polled (speaks job) comes resting polls

end Machine

/-- Samples of the states of a scheduler are told to the emitter that wants them. -/
theorem Scheduler.observe_start {σ : Type} {s : Scheduler σ} {token : Token} {emitter : Emitter}
    {flow : String} {lift : (Sinks → Sinks) → σ → σ} {shared : σ} {sampling : Sampling σ}
    (on : (s.start (Lifecycle.conditions token emitter flow lift) shared).sampling =
      some sampling) :
    sampling.observe = fun clock snapshot => lift (emitter.hear flow (.state clock snapshot)) := by
  obtain ⟨observe, watches, rfl⟩ := Option.map_eq_some_iff.mp on
  rw [Lifecycle.conditions] at watches
  split at watches
  · cases watches
    rfl
  · cases watches

end KeyFlow
