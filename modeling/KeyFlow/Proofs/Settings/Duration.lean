import Mathlib
import KeyFlow.Settings.Duration

/-!
What a duration is read from. The texts that are read are those of a small grammar whose numbers fit
in 64 bits, and each is read as the milliseconds that it stands for; every other text is an error.
-/

namespace KeyFlow

/-- A list is divided where a property first fails. -/
theorem divide_iff {α : Type} {p : α → Bool} {cs first rest : List α} :
    cs.takeWhile p = first ∧ cs.dropWhile p = rest ↔
      cs = first ++ rest ∧ (∀ c ∈ first, p c = true) ∧ ∀ c ∈ rest.head?, p c = false := by
  constructor
  · rintro ⟨rfl, rfl⟩
    refine ⟨List.takeWhile_append_dropWhile.symm, fun c => List.mem_takeWhile_imp, fun c head => ?_⟩
    have stops := List.head?_dropWhile_not p cs
    rw [Option.mem_def.mp head] at stops
    exact stops
  · rintro ⟨rfl, all, stops⟩
    rw [List.takeWhile_append_of_pos all, List.dropWhile_append_of_pos all]
    cases rest with
    | nil => exact ⟨List.append_nil _, rfl⟩
    | cons c rest =>
      have fails : ¬ p c = true := by simpa using stops c rfl
      rw [List.takeWhile_cons_of_neg fails, List.dropWhile_cons_of_neg fails, List.append_nil]
      exact ⟨rfl, rfl⟩

/-! ## Blanks at the ends -/

namespace Text

/-- No blank stands at an end. -/
def Tight (cs : List Char) : Prop :=
  (∀ c ∈ cs.head?, isBlank c = false) ∧ ∀ c ∈ cs.getLast?, isBlank c = false

/-- Nothing but blanks is taken from the ends of a text. -/
theorem trimChars_split (cs : List Char) : ∃ before after, cs = before ++ trimChars cs ++ after ∧
    ∀ c ∈ before ++ after, isBlank c = true := by
  obtain ⟨first, blank, _⟩ := (@divide_iff _ isBlank cs _ _).mp ⟨rfl, rfl⟩
  obtain ⟨last, blank', _⟩ :=
    (@divide_iff _ isBlank (cs.dropWhile isBlank).reverse _ _).mp ⟨rfl, rfl⟩
  have rest := congrArg List.reverse last
  rw [List.reverse_reverse, List.reverse_append] at rest
  refine ⟨_, _, ?_, List.forall_mem_append.mpr
    ⟨blank, fun c mem => blank' c (List.mem_reverse.mp mem)⟩⟩
  rw [List.append_assoc, trimChars, ← rest]
  exact first

/-- A text that has no blank at its ends is what is left of it between blanks. -/
theorem trimChars_eq {before core after : List Char} (tight : Tight core)
    (blank : ∀ c ∈ before ++ after, isBlank c = true) :
    trimChars (before ++ core ++ after) = core := by
  obtain ⟨blank, blank'⟩ := List.forall_mem_append.mp blank
  have last : ((core ++ after).reverse.dropWhile isBlank).reverse = core := by
    rw [List.reverse_append, (divide_iff.mpr ⟨rfl, ?_, ?_⟩).2, List.reverse_reverse]
    · simpa using blank'
    · rw [List.head?_reverse]
      exact tight.2
  cases core with
  | nil =>
    have all : (before ++ after).dropWhile isBlank = [] :=
      List.dropWhile_eq_nil_iff.mpr (List.forall_mem_append.mpr ⟨blank, blank'⟩)
    rw [trimChars, List.append_nil, all]
    rfl
  | cons c core =>
    rw [trimChars, List.append_assoc, (divide_iff.mpr ⟨rfl, blank, ?_⟩).2, last]
    exact tight.1

end Text

namespace Duration

/-! ## The grammar -/

/-- The units of durations. -/
inductive Measure where
  | millisecond
  | second
  | minute
  | hour

namespace Measure

def letters : Measure → List Char
  | .millisecond => ['m', 's']
  | .second => ['s']
  | .minute => ['m']
  | .hour => ['h']

def millis : Measure → Nat
  | .millisecond => 1
  | .second => 1000
  | .minute => 60 * 1000
  | .hour => 60 * 60 * 1000

/-- The unit, each of its letters in any case. -/
def Written (m : Measure) (cs : List Char) : Prop :=
  List.Forall₂ (fun c l => c = l ∨ c = l.toUpper) cs m.letters

variable {m : Measure} {cs : List Char}

theorem letters_isLower (m : Measure) : ∀ l ∈ m.letters, l.isLower = true := by
  cases m <;> simp [letters]

theorem Written.ne_nil (written : m.Written cs) : cs ≠ [] := by
  rintro rfl
  cases m <;> cases written

/-- No letter of a unit is a blank or a digit. -/
theorem Written.plain (written : m.Written cs) :
    ∀ c ∈ cs, Text.isBlank c = false ∧ c.isDigit = false := by
  have letters : ∀ l ∈ m.letters, (Text.isBlank l = false ∧ l.isDigit = false) ∧
      Text.isBlank l.toUpper = false ∧ l.toUpper.isDigit = false := by
    cases m <;> simp [letters, Text.isBlank, Text.inRanges, Text.blankRanges]
  intro c mem
  obtain ⟨l, letter, same⟩ : ∃ l ∈ m.letters, c = l ∨ c = l.toUpper := by
    obtain ⟨lengths, same⟩ := List.forall₂_iff_get.mp written
    obtain ⟨i, inRange, rfl⟩ := List.mem_iff_getElem.mp mem
    exact ⟨_, List.getElem_mem (lengths ▸ inRange), same i inRange _⟩
  rcases same with rfl | rfl
  · exact (letters _ letter).1
  · exact (letters _ letter).2

end Measure

/-- A letter in any case is the same in lower case. -/
theorem toLower_eq_iff {l : Char} (lower : l.isLower = true) (c : Char) :
    c.toLower = l ↔ c = l ∨ c = l.toUpper := by
  constructor
  · rintro rfl
    by_cases upper : c.isUpper = true
    · rw [Char.toUpper_toLower_eq_toUpper]
      exact .inr (Char.toUpper_eq_of_not_isLower (Char.not_isLower_of_isUpper upper)).symm
    · exact .inl (Char.toLower_eq_of_not_isUpper upper).symm
  · have same := Char.toLower_eq_of_not_isUpper (Char.not_isUpper_of_isLower lower)
    rintro (rfl | rfl)
    · exact same
    · rw [Char.toLower_toUpper_eq_toLower, same]

/-- Letters in any case are the same in lower case. -/
theorem map_toLower_eq_iff {cs ls : List Char} (lower : ∀ l ∈ ls, l.isLower = true) :
    cs.map Char.toLower = ls ↔ List.Forall₂ (fun c l => c = l ∨ c = l.toUpper) cs ls := by
  induction ls generalizing cs with
  | nil => rw [List.forall₂_nil_right_iff, List.map_eq_nil_iff]
  | cons l ls ih =>
    obtain ⟨first, lower⟩ := List.forall_mem_cons.mp lower
    cases cs with
    | nil => exact ⟨nofun, nofun⟩
    | cons c cs =>
      rw [List.forall₂_cons, ← ih lower, List.map_cons, List.cons.injEq, toLower_eq_iff first]

theorem Measure.written_iff {m : Measure} {cs : List Char} :
    cs.map Char.toLower = m.letters ↔ m.Written cs := map_toLower_eq_iff m.letters_isLower

/-- The units are told apart by their letters. -/
theorem unitMillis?_eq_some_iff {cs : List Char} {millis : Nat} :
    unitMillis? (String.ofList (cs.map Char.toLower)) = some millis ↔
      ∃ m : Measure, m.Written cs ∧ m.millis = millis := by
  have name (m : Measure) : String.ofList (cs.map Char.toLower) = String.ofList m.letters ↔
      m.Written cs := by
    rw [String.ofList_inj, Measure.written_iff]
  constructor
  · intro found
    unfold unitMillis? at found
    split at found
    · rename_i is
      exact ⟨.millisecond, (name _).mp is, Option.some.inj found⟩
    · split at found
      · rename_i is
        exact ⟨.second, (name _).mp is, Option.some.inj found⟩
      · split at found
        · rename_i is
          exact ⟨.minute, (name _).mp is, Option.some.inj found⟩
        · split at found
          · rename_i is
            exact ⟨.hour, (name _).mp is, Option.some.inj found⟩
          · cases found
  · rintro ⟨m, written, rfl⟩
    rw [(name m).mpr written]
    cases m <;> rfl

/-- The number that decimal digits stand for, of which the last one counts units. -/
def number (digits : List Char) : Nat :=
  Nat.ofDigits 10 (digits.reverse.map fun c => c.toNat - '0'.toNat)

theorem digitsValue_eq (digits : List Char) : digitsValue digits = number digits := by
  induction digits using List.reverseRecOn with
  | nil => rfl
  | append_singleton digits c ih =>
    rw [digitsValue, List.foldl_concat, ← digitsValue, ih, number, number, List.reverse_concat,
      List.map_cons, Nat.ofDigits_cons, Nat.add_comm]

/-- A text stands for so many milliseconds: a number and a unit, with blanks before, between and
after. -/
def Means (cs : List Char) (millis : Nat) : Prop :=
  ∃ before digits between unit after, ∃ m : Measure,
    cs = before ++ digits ++ between ++ unit ++ after ∧
    (∀ c ∈ before ++ between ++ after, Text.isBlank c = true) ∧
    digits ≠ [] ∧ (∀ c ∈ digits, c.isDigit = true) ∧ m.Written unit ∧
    number digits < 2 ^ 64 ∧ millis = number digits * m.millis ∧ millis < 2 ^ 64

/-! ## Reading -/

theorem not_wordMax_lt {n : Nat} : ¬ wordMax < n ↔ n < 2 ^ 64 := by
  rw [wordMax, UInt64.size]
  omega

theorem isDigit_not_blank {c : Char} (digit : c.isDigit = true) : Text.isBlank c = false := by
  have range : 48 ≤ c.toNat ∧ c.toNat ≤ 57 := by
    simpa [Char.isDigit, UInt32.le_iff_toNat_le] using digit
  have outside : ∀ r ∈ Text.blankRanges, r.2 < 48 ∨ 57 < r.1 := by decide
  rw [Text.isBlank, Text.inRanges, List.any_eq_false]
  intro r mem
  have apart := outside r mem
  simp only [Bool.and_eq_true, decide_eq_true_eq]
  omega

/-- A text without blanks at its ends is read as digits and a unit. -/
theorem ofTrimmed_eq_ok_iff {cs : List Char} {millis : Nat} :
    ofTrimmed cs = .ok millis ↔ ∃ m : Measure, cs.takeWhile Char.isDigit ≠ [] ∧
      m.Written (Text.trimChars (cs.dropWhile Char.isDigit)) ∧
      number (cs.takeWhile Char.isDigit) < 2 ^ 64 ∧
      millis = number (cs.takeWhile Char.isDigit) * m.millis ∧ millis < 2 ^ 64 := by
  rw [ofTrimmed]
  simp only [digitsValue_eq]
  constructor
  · intro ok
    split at ok
    · cases ok
    split at ok
    · cases ok
    split at ok
    · cases ok
    rename_i digits
    split at ok
    · cases ok
    rename_i fits
    split at ok
    · cases ok
    rename_i millis' unit
    split at ok
    · cases ok
    rename_i fits'
    cases ok
    obtain ⟨m, written, rfl⟩ := unitMillis?_eq_some_iff.mp unit
    exact ⟨m, by simpa using digits, written, not_wordMax_lt.mp fits, rfl,
      not_wordMax_lt.mp fits'⟩
  · rintro ⟨m, digits, written, fits, rfl, fits'⟩
    have rest : cs.dropWhile Char.isDigit ≠ [] := by
      intro empty
      rw [empty] at written
      exact written.ne_nil rfl
    have text : cs ≠ [] := by
      rintro rfl
      exact digits rfl
    rw [if_neg (by simpa using text), if_neg (by simpa using rest), if_neg (by simpa using digits),
      if_neg (not_wordMax_lt.mpr fits), unitMillis?_eq_some_iff.mpr ⟨m, written, rfl⟩]
    exact if_neg (not_wordMax_lt.mpr fits')

/-- What is read stands for what it is read as. -/
theorem means_of_parse {s : String} {millis : Nat} (ok : parse s = .ok millis) :
    Means s.toList millis := by
  obtain ⟨m, digits, written, fits, is, fits'⟩ := ofTrimmed_eq_ok_iff.mp ok
  obtain ⟨before, after, text, blank⟩ := Text.trimChars_split s.toList
  obtain ⟨between, after', rest, blank'⟩ :=
    Text.trimChars_split ((Text.trimChars s.toList).dropWhile Char.isDigit)
  obtain ⟨whole, all, _⟩ :=
    (@divide_iff _ Char.isDigit (Text.trimChars s.toList) _ _).mp ⟨rfl, rfl⟩
  refine ⟨before, _, between, _, after' ++ after, m, ?_, ?_, digits, all, written, fits, is, fits'⟩
  · conv_lhs => rw [text, whole, rest]
    simp only [List.append_assoc]
  · intro c mem
    simp only [List.mem_append] at mem blank blank'
    rcases mem with (mem | mem) | mem | mem
    · exact blank c (.inl mem)
    · exact blank' c (.inl mem)
    · exact blank' c (.inr mem)
    · exact blank c (.inr mem)

/-- What stands for a duration is read as it. The blanks at the ends belong to neither the digits
nor the unit, and those in between stop the digits. -/
theorem Means.parse {s : String} {millis : Nat} (means : Means s.toList millis) :
    parse s = .ok millis := by
  obtain ⟨before, digits, between, unit, after, m, text, blank, ne, all, written, fits⟩ := means
  simp only [List.forall_mem_append] at blank
  obtain ⟨⟨blank, blank'⟩, blank''⟩ := blank
  have ends : Text.Tight (digits ++ (between ++ unit)) := by
    refine ⟨fun c head => ?_, fun c last => ?_⟩
    · rw [List.head?_append_of_ne_nil _ ne] at head
      exact isDigit_not_blank (all c (List.mem_of_mem_head? head))
    · rw [← List.append_assoc, List.getLast?_append_of_ne_nil _ written.ne_nil] at last
      exact (written.plain c (List.mem_of_mem_getLast? last)).1
  have stops : ∀ c ∈ (between ++ unit).head?, c.isDigit = false := by
    intro c head
    rcases List.mem_append.mp (List.mem_of_mem_head? head) with mem | mem
    · by_contra digit
      have notBlank := isDigit_not_blank (by simpa using digit)
      rw [blank' c mem] at notBlank
      cases notBlank
    · exact (written.plain c mem).2
  have unitTrimmed : Text.trimChars (between ++ unit) = unit := by
    have tight : Text.Tight unit :=
      ⟨fun c head => (written.plain c (List.mem_of_mem_head? head)).1,
        fun c last => (written.plain c (List.mem_of_mem_getLast? last)).1⟩
    simpa using @Text.trimChars_eq between unit [] tight (by simpa using blank')
  have trimmed : Text.trimChars s.toList = digits ++ (between ++ unit) := by
    have core := Text.trimChars_eq ends (List.forall_mem_append.mpr ⟨blank, blank''⟩)
    rw [text]
    simpa only [List.append_assoc] using core
  obtain ⟨first, rest⟩ := divide_iff.mpr ⟨trimmed, all, stops⟩
  refine ofTrimmed_eq_ok_iff.mpr ⟨m, ?_⟩
  rw [first, rest, unitTrimmed]
  exact ⟨ne, written, fits⟩

/-- A text is read as a duration just if it stands for one, and then as the milliseconds that it
stands for; otherwise it is an error. -/
theorem parse_reads (s : String) :
    (∀ millis, parse s = .ok millis ↔ Means s.toList millis) ∧
      ((∃ e, parse s = .error e) ↔ ∀ millis, ¬ Means s.toList millis) := by
  have reads (millis : Nat) : parse s = .ok millis ↔ Means s.toList millis :=
    ⟨means_of_parse, Means.parse⟩
  refine ⟨reads, ?_⟩
  simp only [← reads]
  cases parse s <;> simp

example : parse " 007 \tMS " = .ok 7 := by cbv

example : parse "5124095576031h" = .error (.tooLarge "5124095576031h") := by cbv

end Duration

end KeyFlow
