import Mathlib.Data.List.Perm.Basic
import KeyFlow.Event

/-!
Who said what. What is told in a run is listed together with the one who tells it, so that what one
of them says can be told apart from what the others say.
-/

namespace KeyFlow

/-- What is told beside the events of a flow and of its tasks. -/
def Happening.IsAside : Happening → Prop
  | .taskInit _ | .schedulerInit | .state .. => True
  | _ => False

section spoken

variable {ι κ : Type} [DecidableEq ι] [DecidableEq κ] {who : ι} {told : List (ι × Happening)}

/-- What this one said of all that was told. -/
def spokenBy (who : ι) (told : List (ι × Happening)) : List Happening :=
  (told.filter (·.1 = who)).map (·.2)

/-- What these said of all that was told. -/
def spokenAmong (those : List ι) (told : List (ι × Happening)) : List Happening :=
  (told.filter (·.1 ∈ those)).map (·.2)

theorem spokenBy_append (told told' : List (ι × Happening)) :
    spokenBy who (told ++ told') = spokenBy who told ++ spokenBy who told' := by
  rw [spokenBy, List.filter_append, List.map_append]
  rfl

theorem spokenBy_self (hs : List Happening) : spokenBy who (hs.map (who, ·)) = hs := by
  rw [spokenBy, List.filter_eq_self.mpr (by simp), List.map_map]
  exact List.map_id' hs

theorem spokenBy_other {other : ι} (ne : other ≠ who) (hs : List Happening) :
    spokenBy who (hs.map (other, ·)) = [] := by
  rw [spokenBy, List.filter_eq_nil_iff.mpr (by simp [ne]), List.map_nil]

theorem mem_spokenBy {h : Happening} : h ∈ spokenBy who told ↔ (who, h) ∈ told := by
  rw [spokenBy, List.mem_map]
  constructor
  · rintro ⟨⟨who', h'⟩, mem, rfl⟩
    obtain ⟨listed, same⟩ := List.mem_filter.mp mem
    obtain rfl : who' = who := by simpa using same
    exact listed
  · intro mem
    exact ⟨(who, h), List.mem_filter.mpr ⟨mem, by simp⟩, rfl⟩

/-- What each entry of a list says, said by its place in the list. -/
theorem spokenBy_zipIdx {α : Type} (lines : α × Nat → List Happening) (l : List α)
    (first i : Nat) :
    spokenBy (some i) ((l.zipIdx first).flatMap fun p => (lines p).map (some p.2, ·)) =
      if first ≤ i then (l[i - first]?.map fun a => lines (a, i)).getD [] else [] := by
  induction l generalizing first with
  | nil => simp [spokenBy]
  | cons a l ih =>
    rw [List.zipIdx_cons, List.flatMap_cons, spokenBy_append, ih]
    rcases Nat.lt_trichotomy first i with before | rfl | after
    · have other : (some first : Option Nat) ≠ some i := by
        rw [Ne, Option.some.injEq]
        omega
      rw [spokenBy_other other, List.nil_append, if_pos (by omega), if_pos (by omega),
        show i - first = (i - (first + 1)) + 1 by omega, List.getElem?_cons_succ]
    · rw [spokenBy_self, if_neg (by omega), if_pos (Nat.le_refl _), Nat.sub_self, List.append_nil]
      rfl
    · have other : (some first : Option Nat) ≠ some i := by
        rw [Ne, Option.some.injEq]
        omega
      rw [spokenBy_other other, if_neg (by omega), if_neg (by omega)]
      rfl

/-! ## Speakers that are taken together -/

/-- When speakers are taken together of whom only one spoke, they said what that one said. -/
theorem spokenBy_renamed (rename : ι → κ) (silent : ∀ other, rename other = rename who →
    other ≠ who → spokenBy other told = []) :
    spokenBy (rename who) (told.map fun e => (rename e.1, e.2)) = spokenBy who told := by
  rw [spokenBy, List.filter_map, List.map_map, spokenBy]
  refine congrArg (List.map Prod.snd) (List.filter_congr fun e mem => ?_)
  rw [Function.comp_apply, decide_eq_decide]
  refine ⟨fun same => ?_, congrArg rename⟩
  by_contra other
  have unspoken := silent e.1 same other
  rw [spokenBy, List.map_eq_nil_iff, List.filter_eq_nil_iff] at unspoken
  simpa using unspoken e mem

/-- When these speakers are taken together as one, that one said what they said. -/
theorem spokenBy_taken (rename : ι → κ) {one : κ} {those : List ι}
    (taken : ∀ other, rename other = one ↔ other ∈ those) :
    spokenBy one (told.map fun e => (rename e.1, e.2)) = spokenAmong those told := by
  rw [spokenBy, List.filter_map, List.map_map, spokenAmong]
  refine congrArg (List.map Prod.snd) (List.filter_congr fun e _ => ?_)
  rw [Function.comp_apply, decide_eq_decide]
  exact taken e.1

theorem spokenAmong_singleton : spokenAmong [who] told = spokenBy who told := by
  rw [spokenAmong, spokenBy]
  simp only [List.mem_singleton]

/-- What several said is what each of them said, in some order. -/
theorem spokenAmong_perm {those : List ι} (once : those.Nodup) :
    (spokenAmong those told).Perm (those.flatMap (spokenBy · told)) := by
  induction those with
  | nil => simp [spokenAmong]
  | cons who those ih =>
    obtain ⟨new, once⟩ := List.nodup_cons.mp once
    have first : (told.filter (·.1 ∈ who :: those)).filter (·.1 = who) =
        told.filter (·.1 = who) := by
      rw [List.filter_filter]
      refine List.filter_congr fun e _ => ?_
      by_cases same : e.1 = who <;> simp [same]
    have rest : (told.filter (·.1 ∈ who :: those)).filter (fun e => !decide (e.1 = who)) =
        told.filter (·.1 ∈ those) := by
      rw [List.filter_filter]
      refine List.filter_congr fun e _ => ?_
      by_cases same : e.1 = who
      · simp [same, new]
      · simp [same]
    have split := List.filter_append_perm (fun e => decide (e.1 = who))
      (told.filter (·.1 ∈ who :: those))
    rw [first, rest] at split
    have whole := split.symm.map Prod.snd
    rw [List.map_append] at whole
    exact whole.trans ((ih once).append_left _)

end spoken

/-! ## All that is told -/

section gathered

variable {opening : List Happening} {group : Nat → Option Nat}
  {told closing : List (Option Nat × Happening)}

/-- What is told before the jobs run, by the jobs, for which their groups stand, and in the end. -/
def gathered (opening : List Happening) (group : Nat → Option Nat)
    (told closing : List (Option Nat × Happening)) : List (Option Nat × Happening) :=
  opening.map (none, ·) ++ told.map (fun e => (e.1.bind group, e.2)) ++ closing

theorem gathered_lines (opening : List Happening) (group : Nat → Option Nat)
    (told closing : List (Option Nat × Happening)) :
    (gathered opening group told closing).map (·.2) =
      opening ++ told.map (·.2) ++ closing.map (·.2) := by
  rw [gathered, List.map_append, List.map_append, List.map_map, List.map_map]
  simp only [Function.comp_def, List.map_id']

theorem mem_gathered {who : Option Nat} {h : Happening}
    (mem : (who, h) ∈ gathered opening group told closing) :
    (who = none ∧ h ∈ opening) ∨ (∃ speaker, (speaker, h) ∈ told ∧ who = speaker.bind group) ∨
      (who, h) ∈ closing := by
  rcases List.mem_append.mp mem with mem | last
  · rcases List.mem_append.mp mem with first | said
    · obtain ⟨_, listed, is⟩ := List.mem_map.mp first
      cases is
      exact .inl ⟨rfl, listed⟩
    · obtain ⟨⟨speaker, _⟩, listed, is⟩ := List.mem_map.mp said
      cases is
      exact .inr (.inl ⟨speaker, listed, rfl⟩)
  · exact .inr (.inr last)

/-- Every job that tells something belongs to one of so many groups, and all that is told in the end
is told of one; the rest is told beside that. -/
structure Grouped (group : Nat → Option Nat) (count : Nat)
    (told closing : List (Option Nat × Happening)) : Prop where
  speakers : ∀ job h, (some job, h) ∈ told → ∃ i < count, group job = some i
  aside : ∀ h, (none, h) ∈ told → h.IsAside
  closing : ∀ who h, (who, h) ∈ closing → ∃ i < count, who = some i

theorem Grouped.isAside {count : Nat} (grouped : Grouped group count told closing)
    (before : ∀ h ∈ opening, h.IsAside) {h : Happening}
    (mem : (none, h) ∈ gathered opening group told closing) : h.IsAside := by
  rcases mem_gathered mem with ⟨_, first⟩ | ⟨speaker, said, alone⟩ | last
  · exact before h first
  · cases speaker with
    | none => exact grouped.aside h said
    | some job =>
      obtain ⟨i, _, belongs⟩ := grouped.speakers job h said
      rw [Option.bind_some, belongs] at alone
      cases alone
  · obtain ⟨_, _, no⟩ := grouped.closing none h last
    cases no

theorem Grouped.lt {count i : Nat} (grouped : Grouped group count told closing) {h : Happening}
    (mem : (some i, h) ∈ gathered opening group told closing) : i < count := by
  rcases mem_gathered mem with ⟨no, _⟩ | ⟨speaker, said, is⟩ | last
  · cases no
  · cases speaker with
    | none => cases is
    | some job =>
      obtain ⟨i', lt, belongs⟩ := grouped.speakers job h said
      rw [Option.bind_some, belongs, Option.some.injEq] at is
      exact is ▸ lt
  · obtain ⟨_, lt, is⟩ := grouped.closing (some i) h last
    exact Option.some.inj is ▸ lt

theorem spokenBy_gathered (i : Nat) :
    spokenBy (some i) (gathered opening group told closing) =
      spokenBy (some i) (told.map fun e => (e.1.bind group, e.2)) ++ spokenBy (some i) closing := by
  rw [gathered, spokenBy_append, spokenBy_append, spokenBy_other (by simp), List.nil_append]

end gathered

end KeyFlow
