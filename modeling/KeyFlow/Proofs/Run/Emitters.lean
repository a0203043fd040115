import KeyFlow.Proofs.Run.Heard
import KeyFlow.Proofs.Run.Watched

/-!
Emitters as they are seen by those who look at a part of the sinks only: at the notes of the bodies,
or at what one recorder has written. A recorder writes in a stack what it writes alone, so whoever
looks at its notebook cannot tell one from the other; and where the emitters cannot be told apart,
neither can the lives of the flows that they are told of.
-/

namespace KeyFlow

/-! ## Emitters -/

namespace Sinks

/-- What the bodies wrote about themselves. -/
def notes (s : Sinks) : List Note :=
  s.events.filterMap fun
    | .note n => some n
    | _ => none

theorem notes_write (s : Sinks) (e : Event) :
    (s.write e).notes = s.notes ++ (match e with
      | .note n => some n
      | _ => none).toList := by
  rw [notes, write, List.filterMap_append]
  congr 1

end Sinks

namespace Emitter

mutual

/-- Nothing that is told is a note. -/
theorem hear_notes (flow : String) (h : Happening) : ∀ (e : Emitter) (s : Sinks),
    (e.hear flow h s).notes = s.notes
  | .silent, s => rfl
  | .log, s => by
    rw [hear]
    split
    · exact (Sinks.notes_write s _).trans (List.append_nil _)
    · rfl
  | .recorder name samples, s => by
    rw [hear]
    split
    · exact (Sinks.notes_write s _).trans (List.append_nil _)
    · rfl
  | .transcriber number samples, s => by
    rw [hear]
    split <;> rfl
  | .stack emitters, s => by
    rw [hear]
    exact hearAll_notes flow h emitters s

theorem hearAll_notes (flow : String) (h : Happening) : ∀ (es : List Emitter) (s : Sinks),
    (hearAll flow h es s).notes = s.notes
  | [], s => rfl
  | e :: es, s => by rw [hearAll, hearAll_notes flow h es, hear_notes flow h e]

end

mutual

/-- Emitters that do not sample are not told of states. -/
theorem hear_state (flow : String) (clock : Nat) (snapshot : Snapshot) :
    ∀ e : Emitter, e.samples = false → e.hear flow (.state clock snapshot) = id
  | .silent, _ => rfl
  | .log, samples => by cases samples
  | .recorder name samples, off => by
    cases off
    rfl
  | .transcriber number samples, off => by
    cases off
    rfl
  | .stack emitters, off => by
    funext s
    rw [hear]
    exact congrFun (hearAll_state flow clock snapshot emitters off) s

theorem hearAll_state (flow : String) (clock : Nat) (snapshot : Snapshot) :
    ∀ es : List Emitter, anySamples es = false → hearAll flow (.state clock snapshot) es = id
  | [], _ => rfl
  | e :: es, off => by
    rw [anySamples, Bool.or_eq_false_iff] at off
    funext s
    rw [hearAll, hear_state flow clock snapshot e off.1,
      hearAll_state flow clock snapshot es off.2]
    rfl

end

end Emitter

/-! ## Recorders -/

/-- Where a recorder writes. -/
inductive Notebook where
  /-- The journal, under the name of the recorder. -/
  | recorder (name : String)
  /-- The transcript with this number. -/
  | transcript (number : Nat)
  deriving DecidableEq

namespace Notebook

/-- The emitter that keeps nothing but this notebook. -/
def keeper (samples : Bool) : Notebook → Emitter
  | .recorder name => .recorder name samples
  | .transcript number => .transcriber number samples

/-- What stands in a notebook of the flow. -/
def read (flow : String) : Notebook → Sinks → List Happening × Option Transcript
  | .recorder name, s => (s.heardBy name flow, none)
  | .transcript number, s => ([], s.transcripts[number]?)

/-- Enters what happened. -/
def enter (flow : String) (h : Happening) :
    Notebook → List Happening × Option Transcript → List Happening × Option Transcript
  | .recorder _, (hs, t) => (hs ++ [h], t)
  | .transcript _, (hs, t) => (hs, t.map (·.hear flow h))

theorem read_note (b : Notebook) (flow : String) (s : Sinks) (n : Note) :
    b.read flow (s.note n) = b.read flow s := by
  cases b with
  | recorder name =>
    rw [read, read, Sinks.note, Sinks.heardBy_write]
    exact congrArg (·, none) (List.append_nil _)
  | transcript number => rfl

end Notebook

namespace Emitter

mutual

/-- The notebooks that the recorders in an emitter keep, and whether they sample states. -/
def notebooks : Emitter → List (Notebook × Bool)
  | .silent | .log => []
  | .recorder name samples => [(.recorder name, samples)]
  | .transcriber number samples => [(.transcript number, samples)]
  | .stack emitters => allNotebooks emitters

def allNotebooks : List Emitter → List (Notebook × Bool)
  | [] => []
  | e :: es => e.notebooks ++ allNotebooks es

end

/-- There is one recorder, at whatever depth, that keeps this notebook. -/
def Keeps (e : Emitter) (b : Notebook) (samples : Bool) : Prop :=
  e.notebooks.filter (·.1 = b) = [(b, samples)]

variable {b : Notebook}

theorem keeps_keeper (b : Notebook) (samples : Bool) : (b.keeper samples).Keeps b samples := by
  cases b <;> exact List.filter_cons_of_pos (decide_eq_true rfl)

/-- What these recorders make of a notebook when they are told something. -/
def entered (b : Notebook) (flow : String) (h : Happening) (kept : List (Notebook × Bool))
    (page : List Happening × Option Transcript) : List Happening × Option Transcript :=
  ((kept.filter (·.1 = b)).filter fun k => wants k.2 h).foldl
    (fun page _ => b.enter flow h page) page

theorem entered_append (b : Notebook) (flow : String) (h : Happening)
    (ks ks' : List (Notebook × Bool)) (page : List Happening × Option Transcript) :
    entered b flow h (ks ++ ks') page = entered b flow h ks' (entered b flow h ks page) := by
  rw [entered, List.filter_append, List.filter_append, List.foldl_append]
  rfl

mutual

theorem hear_read (b : Notebook) (flow : String) (h : Happening) : ∀ (e : Emitter) (s : Sinks),
    b.read flow (e.hear flow h s) = entered b flow h e.notebooks (b.read flow s)
  | .silent, s => rfl
  | .log, s => by
    rw [hear]
    split
    · cases b with
      | recorder name =>
        rw [Notebook.read, Sinks.heardBy_write]
        exact congrArg (·, none) (List.append_nil _)
      | transcript number => rfl
    · rfl
  | .recorder name samples, s => by
    rw [hear, notebooks]
    cases b with
    | recorder other =>
      by_cases wanted : wants samples h = true
      · by_cases same : name = other
        · simp [Notebook.read, Sinks.heardBy_write, entered, wanted, same, Notebook.enter]
        · simp [Notebook.read, Sinks.heardBy_write, entered, wanted, same]
      · by_cases same : name = other <;> simp [entered, wanted, same]
    | transcript number =>
      split <;> rfl
  | .transcriber number samples, s => by
    rw [hear, notebooks]
    cases b with
    | recorder name =>
      split <;> rfl
    | transcript other =>
      by_cases wanted : wants samples h = true
      · by_cases same : number = other
        · simp [Notebook.read, Sinks.transcribe, entered, wanted, same, Notebook.enter]
        · simp [Notebook.read, Sinks.transcribe, entered, wanted, same]
      · by_cases same : number = other <;> simp [entered, wanted, same]
  | .stack emitters, s => by
    rw [hear, notebooks]
    exact hearAll_read b flow h emitters s

theorem hearAll_read (b : Notebook) (flow : String) (h : Happening) :
    ∀ (es : List Emitter) (s : Sinks),
      b.read flow (hearAll flow h es s) = entered b flow h (allNotebooks es) (b.read flow s)
  | [], s => rfl
  | e :: es, s => by
    rw [hearAll, allNotebooks, hearAll_read b flow h es, hear_read b flow h e, entered_append]

end

/-- A recorder writes in its notebook what it would write alone. -/
theorem Keeps.read {e e' : Emitter} {samples : Bool} (keeps : e.Keeps b samples)
    (keeps' : e'.Keeps b samples) (flow : String) (h : Happening) {s s' : Sinks}
    (same : b.read flow s' = b.read flow s) :
    b.read flow (e'.hear flow h s') = b.read flow (e.hear flow h s) := by
  rw [hear_read, hear_read, entered, entered, keeps, keeps', same]

mutual

theorem samples_of_kept {b : Notebook} : ∀ e : Emitter, (b, true) ∈ e.notebooks →
    e.samples = true
  | .silent, kept => by cases kept
  | .log, _ => rfl
  | .recorder name samples, kept => by
    cases List.mem_singleton.mp kept
    rfl
  | .transcriber number samples, kept => by
    cases List.mem_singleton.mp kept
    rfl
  | .stack emitters, kept => anySamples_of_kept emitters kept

theorem anySamples_of_kept {b : Notebook} : ∀ es : List Emitter, (b, true) ∈ allNotebooks es →
    anySamples es = true
  | [], kept => by cases kept
  | e :: es, kept => by
    rw [anySamples, Bool.or_eq_true]
    exact (List.mem_append.mp kept).imp (samples_of_kept e) (anySamples_of_kept es)

end

theorem Keeps.samples {e : Emitter} (keeps : e.Keeps b true) : e.samples = true :=
  samples_of_kept e (List.mem_filter.mp (keeps ▸ List.mem_singleton_self _)).1

end Emitter

/-! ## What is told of a flow -/

/-- The sinks are the same in this view of them. -/
abbrev Sinks.Agree {β : Type} (view : Sinks → β) (s s' : Sinks) : Prop := view s' = view s

/-- Whoever has this view of the sinks cannot tell the emitters apart. -/
structure Emitter.Matches {β : Type} (view : Sinks → β) (flow : String) (e e' : Emitter) :
    Prop where
  note : ∀ (n : Note) (s s' : Sinks), s.Agree view s' → (s.note n).Agree view (s'.note n)
  hear : ∀ (h : Happening) (s s' : Sinks), s.Agree view s' →
    (e.hear flow h s).Agree view (e'.hear flow h s')

theorem Emitter.matches_notes (flow : String) (e e' : Emitter) :
    Matches Sinks.notes flow e e' where
  note n s s' same := by
    rw [Sinks.Agree, Sinks.note, Sinks.note, Sinks.notes_write, Sinks.notes_write, same]
  hear h s s' same := by
    rw [Sinks.Agree, hear_notes, hear_notes, same]

theorem Emitter.Keeps.matches {b : Notebook} {samples : Bool} {e e' : Emitter}
    (keeps : e.Keeps b samples) (keeps' : e'.Keeps b samples) (flow : String) :
    Matches (b.read flow) flow e e' where
  note n s s' same := by
    rw [Sinks.Agree, Notebook.read_note, Notebook.read_note]
    exact same
  hear h s s' same := keeps.read keeps' flow h same

/-- Both flows came to the same, through the same jobs, and so did the sinks in this view. -/
structure FlowReport.Alike {α σ β : Type} (view : Sinks → β) (r r' : FlowReport α σ) : Prop where
  result : r'.result = r.result
  jobs : Option.Rel Report.Same r.jobs r'.jobs
  sinks : r.sinks.Agree view r'.sinks

/-- Both runs of a flow came to their end and to the same, or both broke off at the same point. -/
abbrev FlowCourse.Alike {α σ β : Type} (view : Sinks → β) :
    Course (FlowReport α σ) Sinks → Course (FlowReport α σ) Sinks → Prop :=
  Course.Alike (FlowReport.Alike view) (Sinks.Agree view)

namespace Lifecycle

variable {α σ β : Type} {view : Sinks → β} {R : σ → σ → Prop} {flow : String} {e e' : Emitter}

theorem tellAll_agree (same : e.Matches view flow e') (hs : List Happening) {s s' : Sinks}
    (agree : s.Agree view s') :
    (tellAll (e.hear flow) hs s).Agree view (tellAll (e'.hear flow) hs s') := by
  induction hs generalizing s s' with
  | nil => exact agree
  | cons h hs ih => exact ih (same.hear h _ _ agree)

theorem around_alike (same : e.Matches view flow e')
    {inner inner' : Sinks → Course (FlowReport α σ) Sinks}
    (alike : ∀ s s', s.Agree view s' → FlowCourse.Alike view (inner s) (inner' s'))
    {s s' : Sinks} (agree : s.Agree view s') :
    FlowCourse.Alike view (around (e.hear flow) inner s) (around (e'.hear flow) inner' s') := by
  refine (alike _ _ (same.hear .flowInit _ _ agree)).map (fun r r' like => ?_) fun _ _ => id
  refine ⟨like.result, like.jobs, ?_⟩
  simp only [like.result]
  exact same.hear _ _ _ (same.hear _ _ _ like.sinks)

/-- If the left emitter samples states, so does the right one, and at the same times. -/
def InTime (e e' : Emitter) (settings settings' : RunSettings) : Prop :=
  e.samples = true → e'.samples = true ∧ settings'.flushMillis = settings.flushMillis

/-- The states of two runs are sampled at the same times, or those of the right one alone. -/
theorem start_watched (same : e.Matches view flow e') {s t : Scheduler σ}
    (inTime : InTime e e' s.settings t.settings) (token : Token)
    (lift : (Sinks → Sinks) → σ → σ) (idle : ∀ x, lift id x = x)
    (lifts : ∀ f f' : Sinks → Sinks, (∀ s s', s.Agree view s' → (f s).Agree view (f' s')) →
      ∀ x x', R x x' → R (lift f x) (lift f' x')) (a b : σ) :
    Sampling.Alike R (s.start (conditions token e flow lift) a).sampling
        (t.start (conditions token e' flow lift) b).sampling ∨
      Sampling.Extra R (s.start (conditions token e flow lift) a).sampling
        (t.start (conditions token e' flow lift) b).sampling := by
  have states (clock : Nat) (snapshot : Snapshot) :=
    lifts _ _ (same.hear (.state clock snapshot))
  unfold Scheduler.start conditions
  simp only
  cases on : e.samples with
  | true =>
    obtain ⟨on', flush⟩ := inTime on
    rw [on']
    have period : Scheduler.samplingFor t.settings
          (fun clock snapshot => lift (e'.hear flow (.state clock snapshot))) =
        { Scheduler.samplingFor s.settings
            (fun clock snapshot => lift (e.hear flow (.state clock snapshot))) with
          observe := fun clock snapshot => lift (e'.hear flow (.state clock snapshot)) } := by
      simp only [Scheduler.samplingFor, flush]
    refine .inl ?_
    simp only [ite_true, Option.map_some, period]
    exact .some states
  | false =>
    cases on' : e'.samples with
    | false => exact .inl .none
    | true =>
      refine .inr ⟨rfl, _, rfl, fun clock snapshot x x' related => ?_⟩
      have told := states clock snapshot x x' related
      rw [Emitter.hear_state flow clock snapshot e on, idle] at told
      exact told

end Lifecycle

end KeyFlow
