import KeyFlow.Proofs.Run.Heard
import KeyFlow.Proofs.Run.Limit
import KeyFlow.Rehearsal

/-!
The peak that rehearsed jobs note in their log. A body is at work from its first turn to its last,
and all that while its job is in flight: so no more bodies are at work at once than the limit
allows.
-/

namespace KeyFlow

/-- A position in a list that fits one in another list is counted there too. -/
theorem countP_le_of_getElem? {α β : Type} {l : List α} {l' : List β} {p : α → Bool} {q : β → Bool}
    (length : l.length = l'.length)
    (fits : ∀ (i : Nat) a b, l[i]? = some a → l'[i]? = some b → p a = true → q b = true) :
    l.countP p ≤ l'.countP q := by
  induction l generalizing l' with
  | nil => exact Nat.zero_le _
  | cons a l ih =>
    cases l' with
    | nil => cases length
    | cons b l' =>
      have rest := ih (Nat.succ.inj length) fun i a b found found' =>
        fits (i + 1) a b (by simpa using found) (by simpa using found')
      have here := fits 0 a b rfl rfl
      rw [List.countP_cons, List.countP_cons]
      split
      · rw [if_pos (here ‹_›)]
        omega
      · omega

/-- The body leaves the log in its last turn. -/
inductive Leaving : JobBody JobLog → Prop where
  | change {f : JobLog → JobLog} (left : ∀ l, (f l).active = l.active - 1 ∧ (f l).peak = l.peak)
    (c : Ending Completion) : Leaving (Process.change f (.done c))

/-- Whether the body in a slot is at work: it has begun and not left. -/
inductive AtWork : Slot JobLog → Bool → Prop where
  | fresh (b : Behavior) (name : String) : AtWork (.fresh (b.body name)) false
  | queued (b : Behavior) (name : String) : AtWork (.queued (b.body name)) false
  | asleep (wakeAt : Nat) {next : Nat → JobBody JobLog} (leaving : ∀ t, Leaving (next t)) :
    AtWork (.asleep wakeAt next) true
  | awaiting {next : Nat → JobBody JobLog} (leaving : ∀ t, Leaving (next t)) :
    AtWork (.awaiting next) true
  | woken {body : JobBody JobLog} (leaving : Leaving body) : AtWork (.queued body) true
  | spent : AtWork .spent false

theorem Leaving.ended (name : String) (c : Ending Completion) :
    Leaving (Behavior.rest.ended name c) :=
  .change (f := JobLog.finish name) (fun _ => ⟨rfl, rfl⟩) c

/-- How the log counts a body that begins its work. -/
def JobLog.Entered (l l' : JobLog) (atWork : Nat) : Prop :=
  l'.active = l.active + atWork ∧ l'.peak = max l.peak (l.active + 1)

/-- A body begins in its first turn, and leaves in the same turn if it does not pause. -/
theorem Behavior.advance_body (b : Behavior) (name : String) (w : World JobLog) :
    (∃ c, ((b.body name).advance w).1 = .ended c ∧
      w.shared.Entered ((b.body name).advance w).2.shared 0) ∨
    (((∃ millis next, ((b.body name).advance w).1 = .asleep millis next ∧ ∀ t, Leaving (next t)) ∨
        ∃ next, ((b.body name).advance w).1 = .awaiting next ∧ ∀ t, Leaving (next t)) ∧
      w.shared.Entered ((b.body name).advance w).2.shared 1) := by
  cases b with
  | succeed | fail | panic | decline => exact .inl ⟨_, rfl, rfl, rfl⟩
  | sleep millis =>
    cases millis with
    | zero => exact .inl ⟨_, rfl, rfl, rfl⟩
    | succ n => exact .inr ⟨.inl ⟨_, _, rfl, fun _ => .ended name _⟩, rfl, rfl⟩
  | waitForCancel =>
    let begun : World JobLog := { w with shared := w.shared.start name }
    have eq : (waitForCancel.body name).advance w =
        if (begun.cancelled || begun.ownCancelled) = true
        then JobBody.advance (rest.ended name (.returned .done)) begun
        else (.awaiting fun _ => rest.ended name (.returned .done), begun) := rfl
    rw [eq]
    split
    · exact .inl ⟨_, rfl, rfl, rfl⟩
    · exact .inr ⟨.inr ⟨_, rfl, fun _ => .ended name _⟩, rfl, rfl⟩

theorem AtWork.isLive {slot : Slot JobLog} (work : AtWork slot true) : slot.isLive = true := by
  cases work <;> rfl

/-- A body that is started or woken is at work just if it was. -/
theorem AtWork.moved {old new : Slot JobLog} {mark : Bool} (work : AtWork old mark)
    (move : Slot.Moved new old) (unqueued : ∀ body, old ≠ .queued body) : AtWork new mark := by
  cases move with
  | start =>
    cases work with
    | fresh b name => exact .queued b name
  | woke wakeAt clock next =>
    cases work with
    | asleep _ leaving => exact .woken (leaving clock)
  | resumed clock next =>
    cases work with
    | awaiting leaving => exact .woken (leaving clock)
  | ended | slept | waits => exact absurd rfl (unqueued _)

namespace Machine

variable {start m m' : Machine JobLog} {deps : List (List Nat)} {n : Nat}

/-- As many bodies are at work as the log says, and the peak has kept to `n`. -/
structure Rehearses (n : Nat) (m : Machine JobLog) (marks : List Bool) : Prop where
  length : marks.length = m.slots.length
  marked : ∀ (i : Nat) slot mark, m.slots[i]? = some slot → marks[i]? = some mark → AtWork slot mark
  active : m.shared.active = marks.countP id
  peak : m.shared.peak ≤ n

theorem Rehearses.quiet {marks : List Bool} (rehearses : Rehearses n m marks) (quiet : Quiet m m')
    (observes : ∀ s, m.sampling = some s → ∀ time snapshot l,
      (s.observe time snapshot l).active = l.active ∧ (s.observe time snapshot l).peak = l.peak) :
    Rehearses n m' marks := by
  have log : m'.shared.active = m.shared.active ∧ m'.shared.peak = m.shared.peak := by
    cases quiet with
    | sampled =>
      unfold sample
      split
      · rename_i s on
        exact observes s on ..
      · exact ⟨rfl, rfl⟩
    | woken job =>
      unfold wake
      split <;> exact ⟨rfl, rfl⟩
    | _ => exact ⟨rfl, rfl⟩
  refine ⟨rehearses.length.trans (Reaches.single (.quiet quiet)).length.symm,
    fun i slot mark found marked => ?_, log.1.trans rehearses.active, log.2 ▸ rehearses.peak⟩
  rcases quiet.slot i with same | ⟨old, new, before, after, move, unqueued⟩
  · exact rehearses.marked i slot mark (same ▸ found) marked
  · rw [found, Option.some.injEq] at after
    subst after
    exact (rehearses.marked i old mark before marked).moved move unqueued

/-- The bodies at work are of jobs that run in the books. -/
theorem Rehearses.le_running {marks : List Bool} (kept : Kept deps m)
    (length : marks.length = m.slots.length)
    (live : ∀ (i : Nat) slot, m.slots[i]? = some slot → marks[i]? = some true →
      slot.isLive = true) :
    marks.countP id ≤ m.books.running := by
  rw [kept.sound.running]
  refine countP_le_of_getElem? ?_ fun i mark state marked found on => ?_
  · rw [length, kept.length, Books.states, List.length_map]
  · rw [Books.getElem?_states] at found
    have inRange : i < m.slots.length := length ▸ (List.getElem?_eq_some_iff.mp marked).1
    have slot := List.getElem?_eq_getElem inRange
    cases mark with
    | false => cases on
    | true =>
      have alive := (isLive_of_slot slot).trans (live i _ slot marked)
      rw [(kept.running i).mpr (.inl alive), Option.some.injEq] at found
      rw [← found]
      rfl

/-- The mark of one job is set as its slot says, and the log follows. -/
theorem Rehearses.set {marks : List Bool} (rehearses : Rehearses n m marks) {job : Nat}
    {new : Slot JobLog} (mark : Bool) (slots : m'.slots = m.slots.set job new)
    (work : AtWork new mark) (active : m'.shared.active = (marks.set job mark).countP id)
    (peak : m'.shared.peak ≤ n) : Rehearses n m' (marks.set job mark) := by
  refine ⟨by rw [slots, List.length_set, List.length_set, rehearses.length],
    fun i slot mark' found marked => ?_, active, peak⟩
  by_cases same : i = job
  · subst same
    rw [slots, List.getElem?_set] at found
    rw [List.getElem?_set] at marked
    simp only [if_true] at found marked
    split at found <;> split at marked <;> cases found <;> cases marked
    exact work
  · rw [slot_set_ne slots same] at found
    rw [List.getElem?_set_ne (Ne.symm same)] at marked
    exact rehearses.marked i slot mark' found marked

theorem countP_set_id {marks : List Bool} {job : Nat} {old : Bool} (marked : marks[job]? = some old)
    (new : Bool) : (marks.set job new).countP id + old.toNat = marks.countP id + new.toNat := by
  obtain ⟨inRange, is⟩ := List.getElem?_eq_some_iff.mp marked
  rw [List.countP_set inRange, is]
  cases old with
  | false => cases new <;> rfl
  | true =>
    have positive : 0 < marks.countP id :=
      List.countP_pos_iff.mpr ⟨true, is ▸ List.getElem_mem _, rfl⟩
    cases new <;> simp <;> omega

/-- There is a worker for the body that begins. -/
theorem Rehearses.room {marks : List Bool} (rehearses : Rehearses n m marks) (kept : Kept deps m)
    (limited : m.books.running ≤ n) {job : Nat} {body : JobBody JobLog}
    (slot : m.slots[job]? = some (.queued body)) (marked : marks[job]? = some false) :
    m.shared.active + 1 ≤ n := by
  have count := countP_set_id marked true
  have le : (marks.set job true).countP id ≤ m.books.running := by
    refine Rehearses.le_running kept (by rw [List.length_set, rehearses.length])
      fun i slot' found on => ?_
    by_cases same : i = job
    · subst same
      rw [slot, Option.some.injEq] at found
      rw [← found]
      rfl
    · rw [List.getElem?_set_ne (Ne.symm same)] at on
      exact (rehearses.marked i slot' true found on).isLive
  have active := rehearses.active
  simp only [Bool.toNat_false, Bool.toNat_true] at count
  omega

theorem Rehearses.polled {marks : List Bool} (rehearses : Rehearses n m marks)
    (kept : Kept deps m) (limited : m.books.running ≤ n) {job : Nat} {rest : List Nat}
    {body : JobBody JobLog} (polls : m.Polls job rest body) :
    ∃ marks', Rehearses n (m.ranOn job rest body) marks' := by
  have inRange : job < marks.length := by
    rw [rehearses.length]
    exact (List.getElem?_eq_some_iff.mp polls.slot).1
  obtain ⟨mark, marked⟩ : ∃ mark, marks[job]? = some mark := ⟨_, List.getElem?_eq_getElem inRange⟩
  have slots := m.ranOn_slots job rest body
  have shared := (m.ranOn_rest job rest body).2
  have active := rehearses.active
  have peak := rehearses.peak
  have count := countP_set_id marked
  cases rehearses.marked job _ mark polls.slot marked with
  | queued b name =>
    have room := rehearses.room kept limited polls.slot marked
    rcases b.advance_body name (m.world job) with ⟨c, ended, entered⟩ | ⟨paused, entered⟩
    · obtain ⟨placed, top⟩ : m.shared.Entered (m.ranOn job rest (b.body name)).shared 0 :=
        shared ▸ entered
      rw [ended] at slots
      refine ⟨_, rehearses.set false slots .spent ?_ ?_⟩
      · have := count false
        omega
      · omega
    · obtain ⟨placed, top⟩ : m.shared.Entered (m.ranOn job rest (b.body name)).shared 1 :=
        shared ▸ entered
      have work : AtWork (slotAfter m.clock ((b.body name).advance (m.world job)).1) true := by
        rcases paused with ⟨millis, next, asleep, leaving⟩ | ⟨next, awaiting, leaving⟩
        · rw [asleep]
          exact .asleep _ leaving
        · rw [awaiting]
          exact .awaiting leaving
      refine ⟨_, rehearses.set true slots work ?_ ?_⟩
      · have := count true
        simp only [Bool.toNat_false, Bool.toNat_true] at this
        omega
      · omega
  | woken leaving =>
    obtain ⟨left, c⟩ := leaving
    refine ⟨_, rehearses.set false slots .spent ?_ ?_⟩
    · have := count false
      simp only [Bool.toNat_false, Bool.toNat_true] at this
      rw [shared]
      refine (left m.shared).1.trans ?_
      omega
    · rw [shared]
      exact (left m.shared).2.trans_le peak

/-- Samples of the scheduler's state leave the counts of the log alone. -/
def ObservesApart (m : Machine JobLog) : Prop :=
  ∀ s, m.sampling = some s → ∀ time snapshot l,
    (s.observe time snapshot l).active = l.active ∧ (s.observe time snapshot l).peak = l.peak

theorem ObservesApart.move (apart : ObservesApart m) (move : Move m m') : ObservesApart m' := by
  intro s on
  obtain ⟨first, found, same⟩ := (Reaches.single move).observe s on
  rw [same]
  exact apart first found

/-- All that the peak of the log rests on. -/
structure Rehearsing (deps : List (List Nat)) (n : Nat) (m : Machine JobLog) : Prop where
  kept : Kept deps m
  limited : ∃ h, m.books.limit = some ⟨n, h⟩
  apart : ObservesApart m
  rehearses : ∃ marks, Rehearses n m marks

theorem Rehearsing.move (rehearsing : Rehearsing deps n m) (move : Move m m') :
    Rehearsing deps n m' := by
  obtain ⟨h, limit⟩ := rehearsing.limited
  obtain ⟨marks, rehearses⟩ := rehearsing.rehearses
  refine ⟨rehearsing.kept.move move,
    ⟨h, (rehearsing.kept.keeps_move move).frame.limit.trans limit⟩, rehearsing.apart.move move, ?_⟩
  cases move with
  | quiet quiet => exact ⟨marks, rehearses.quiet quiet rehearsing.apart⟩
  | polled polls =>
    exact rehearses.polled rehearsing.kept (rehearsing.kept.sound.limited _ limit) polls

end Machine

namespace Scheduler

/-- The bodies of the scheduler are rehearsed ones, and nobody who watches it counts them. -/
structure Rehearsed (s : Scheduler JobLog) (c : Conditions JobLog) : Prop where
  bodies : ∀ body ∈ s.bodies, ∃ (b : Behavior) (name : String), body = b.body name
  apart : ∀ observe, c.observe = some observe → ∀ time snapshot l,
    (observe time snapshot l).active = l.active ∧ (observe time snapshot l).peak = l.peak

theorem Rehearsed.start {s : Scheduler JobLog} {c : Conditions JobLog} (rehearsed : s.Rehearsed c)
    {deps : List (List Nat)} (fresh : Unstarted deps s) {n : { n : Nat // 0 < n }}
    (limit : s.books.limit = some n) : Machine.Rehearsing deps n.1 (s.start c {}) := by
  refine ⟨fresh.kept c {}, ⟨n.2, limit⟩, fun sampling on => ?_,
    List.replicate s.bodies.length false, ?_, fun i slot mark found marked => ?_, ?_, n.1.zero_le⟩
  · obtain ⟨observe, watches, rfl⟩ := Option.map_eq_some_iff.mp on
    exact rehearsed.apart observe watches
  · rw [List.length_replicate]
    exact (List.length_map ..).symm
  · obtain ⟨body, mem, rfl⟩ := List.mem_map.mp (List.mem_of_getElem? found)
    obtain ⟨b, name, rfl⟩ := rehearsed.bodies body mem
    rw [(List.mem_replicate.mp (List.mem_of_getElem? marked)).2]
    exact .fresh b name
  · rw [List.countP_replicate]
    rfl

/-- A run keeps to its limit: at no moment are more jobs in flight, so no more rehearsed bodies are
ever at work at once. And whenever the scheduler has started what it may, and is about to wait or to
sample its state, the state adds up, and no job that could start meets a free worker. -/
theorem limit_is_used :
    (∀ {σ : Type} (s : Scheduler σ) (deps : List (List Nat)) (c : Conditions σ) (shared : σ),
      s.Collected deps →
      (∀ m, Machine.Comes (s.start c shared) m → ∀ n, s.settings.limit = some n →
        ∀ before, before <+: m.timeline → (inFlight before).length ≤ n.1) ∧
      (∀ r, s.run c shared = .reported r → ∀ n, s.settings.limit = some n →
        ∀ before, before <+: r.timeline → (inFlight before).length ≤ n.1) ∧
      (∀ m m', Machine.Comes (s.start c shared) m → m.Loops → m.step = .ok m' →
        ∃ p, Machine.Serves (s.start c shared) p ∧ p.serve = .ok m') ∧
      ∀ m, Machine.Serves (s.start c shared) m →
        m.books.snapshot.Drained (inFlight m.timeline).length ∧
        m.books.snapshot.limit = s.settings.limit.toNat?) ∧
    ∀ (s : Scheduler JobLog) (deps : List (List Nat)) (c : Conditions JobLog)
      (n : { n : Nat // 0 < n }),
      s.Collected deps → s.Rehearsed c → s.settings.limit = some n →
      (∀ m, Machine.Comes (s.start c {}) m → m.shared.peak ≤ n.1) ∧
      ∀ r, s.run c {} = .reported r → r.shared.peak ≤ n.1 := by
  constructor
  · intro σ s deps c shared collected
    have fresh := collected.unstarted
    have kept := fresh.kept c shared
    have limit {n : { n : Nat // 0 < n }} (is : s.settings.limit = some n) :
        (s.start c shared).books.limit = some n := collected.settings.2.trans is
    have base : Machine.Counted deps (s.start c shared) (s.start c shared) := by
      refine ⟨kept, ⟨[], fresh.told c shared⟩, fun j mem => ?_, ⟨rfl, rfl, rfl⟩,
        fun n _ before first => ?_⟩
      · cases mem
      · rw [List.prefix_nil.mp first]
        exact Nat.zero_le _
    refine ⟨fun m comes n is => ?_, fun r reported n is => ?_, fun m m' comes loops step => ?_,
      fun m serves => ?_⟩
    · exact (comes.counted base).bounded n (limit is)
    · obtain ⟨last, finished, rfl⟩ := finished_of_reported reported
      exact ((kept.finished_serves finished).1.counted base).bounded n (limit is)
    · rw [loops.step] at step
      obtain ⟨m₁, m₂, noticed, dispatched, served⟩ := Machine.round_ok step
      exact ⟨m₂, ⟨m, m₁, comes, loops, noticed, dispatched⟩, served⟩
    · have counted := serves.counted base
      rw [counted.length]
      refine ⟨counted.kept.sound.drained (serves.isShut kept), ?_⟩
      show m.books.limit.toNat? = _
      rw [counted.frame.limit, ← collected.settings.2]
      rfl
  · intro s deps c n collected rehearsed is
    have fresh := collected.unstarted
    have base := rehearsed.start fresh (collected.settings.2.trans is)
    have on {m : Machine JobLog} (reached : Machine.Reaches (s.start c {}) m) :
        m.shared.peak ≤ n.1 := by
      obtain ⟨marks, rehearses⟩ :=
        (reached.keeps (fun _ _ rehearsing move => rehearsing.move move) base).rehearses
      exact rehearses.peak
    refine ⟨fun m comes => on comes.reaches, fun r reported => ?_⟩
    obtain ⟨last, finished, rfl⟩ := finished_of_reported reported
    exact on ((fresh.kept c {}).finished_serves finished).1.reaches

/-- One worker for two jobs that sleep. -/
theorem limit_is_used_alone : ∃ (s : Scheduler JobLog) (m : Machine JobLog) (r : Report JobLog),
    s.size = 2 ∧ s.run {} {} = .reported r ∧ r.shared.finished = ["a", "b"] ∧
      r.shared.peak ≤ 1 ∧ (∀ before, before <+: r.timeline → (inFlight before).length ≤ 1) ∧
      Machine.Serves (s.start {} {}) m ∧
      m.books.snapshot.Drained (inFlight m.timeline).length := by
  let a : Job JobLog := (Behavior.sleep 5).job "a"
  let b : Job JobLog := (Behavior.sleep 3).job "b"
  let one := ((create 0 { limit := some ⟨1, Nat.one_pos⟩ }).enqueue a).2
  let two := (one.enqueue b).2
  have first : (create 0 { limit := some ⟨1, Nat.one_pos⟩ }).enqueue a = (.ok ⟨0, 0⟩, one) := rfl
  have second : one.enqueue b = (.ok ⟨0, 1⟩, two) := rfl
  have collected : two.Collected [[], []] :=
    .taken (.taken (.create 0 _) (by simp [a, Behavior.job]) first) (by simp [b, Behavior.job])
      second
  have rehearsed : two.Rehearsed {} := by
    refine ⟨fun body mem => ?_, nofun⟩
    have bodies : two.bodies = [a.body, b.body] := rfl
    rw [bodies, List.mem_cons, List.mem_singleton] at mem
    rcases mem with rfl | rfl
    · exact ⟨_, _, rfl⟩
    · exact ⟨_, _, rfl⟩
  obtain ⟨last, run, finished⟩ : ∃ last, (two.start {} {}).run = .finished last ∧
      last.shared.finished = ["a", "b"] :=
    Machine.run_finished_of_within (n := 20) (by decide +kernel)
  have reported : two.run {} {} = .reported (report two.id last) := by rw [Scheduler.run, run]
  have serves := ((collected.unstarted.kept {} {}).finished_serves run).1
  obtain ⟨_, bounded, _, drained⟩ := limit_is_used.1 two [[], []] {} {} collected
  have peak := (limit_is_used.2 two [[], []] {} ⟨1, Nat.one_pos⟩ collected rehearsed rfl).2
  exact ⟨two, last, _, rfl, reported, finished, peak _ reported, bounded _ reported _ rfl, serves,
    (drained last serves).1⟩

end Scheduler

end KeyFlow
