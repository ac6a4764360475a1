import Upkeep.Proofs.Relabel.Template

/-! Replacement texts that cannot be expanded. What counts are the words that a reading from left to
right refers to. A word of digits is the number of a group, and not every digit belongs to a
numeral: superscripts and circled digits do not. The first word with such a digit is what the
expansion fails at. A number may be as large and a name as strange as they like, as a group that is
not there stands for nothing; only the number of digits that are read at all is limited. -/
namespace Upkeep.Relabel
open Regex (Match)

/-! ### The words on the way -/

/-- The words that a reading from left to right refers to. It goes on behind each reference, and a
dollar sign without a word behind it stands for itself. -/
inductive Scans : List Char → List (List Char) → Prop
  | done : Scans [] []
  | plain {c : Char} {rest : List Char} {found : List (List Char)} (other : c ≠ '$')
      (later : Scans rest found) : Scans (c :: rest) found
  | reference {text word rest : List Char} {found : List (List Char)}
      (refers : Refers Text.isWord text word rest) (later : Scans rest found) :
      Scans ('$' :: text) (word :: found)
  | dollar {text : List Char} {found : List (List Char)}
      (malformed : ∀ word rest, ¬ Refers Text.isWord text word rest) (later : Scans text found) :
      Scans ('$' :: text) found

section
variable {text : List Char}

theorem reference?_eq_none_iff :
    reference? text = none ↔ ∀ word rest, ¬ Refers Text.isWord text word rest := by
  rw [Option.eq_none_iff_forall_ne_some, Prod.forall]
  exact forall₂_congr fun word rest => not_congr reference?_eq_some_iff

theorem words_plain {c : Char} (other : c ≠ '$') (rest : List Char) :
    words (c :: rest) = words rest := by
  rw [words, pieces_plain other]
  rfl

theorem words_reference {word rest : List Char} (refers : Refers Text.isWord text word rest) :
    words ('$' :: text) = word :: words rest := by
  rw [words, pieces_reference refers]
  rfl

theorem words_dollar (malformed : reference? text = none) : words ('$' :: text) = words text := by
  rw [words, pieces_dollar malformed]
  rfl

end

/-- There is one way to read a template, and it refers to the words of the template. -/
theorem scans_iff {template : List Char} {found : List (List Char)} :
    Scans template found ↔ found = words template := by
  constructor
  · intro scans
    induction scans with
    | done => rfl
    | plain other _ ih => rw [words_plain other, ih]
    | reference refers _ ih => rw [words_reference refers, ih]
    | dollar malformed _ ih => rw [words_dollar (reference?_eq_none_iff.mpr malformed), ih]
  · rintro rfl
    induction template using templateInduction with
    | nil => exact .done
    | plain c rest other ih => exact words_plain other rest ▸ .plain other ih
    | reference text word rest refers ih => exact words_reference refers ▸ .reference refers ih
    | dollar text malformed ih =>
      exact words_dollar malformed ▸ .dollar (reference?_eq_none_iff.mp malformed) ih

/-! ### Words that cannot be read -/

/-- The word is meant for a number, but one of its digits belongs to no numeral. -/
structure Unreadable (word : List Char) : Prop where
  digits : ∀ c ∈ word, Text.isDigit c
  other : ∃ c ∈ word, Text.isDecimal c = false

/-- If the word is meant for a number, it has no more digits to be read than the limit allows. -/
def WithinLimit (word : List Char) : Prop :=
  (∀ c ∈ word, Text.isDigit c) → (word.takeWhile Text.isDecimal).length ≤ Overlong.limit

theorem takeWhile_length_lt_iff {α : Type} (inside : α → Bool) (list : List α) :
    (list.takeWhile inside).length < list.length ↔ ∃ x ∈ list, inside x = false := by
  have whole := congrArg List.length (List.takeWhile_append_dropWhile (p := inside) (l := list))
  rw [List.length_append] at whole
  have left : list.dropWhile inside ≠ [] ↔ ∃ x ∈ list, inside x = false := by
    rw [ne_eq, List.dropWhile_eq_nil_iff]
    simp
  rw [← left, ← List.length_pos_iff]
  omega

theorem wordFault?_eq_some_iff {word : List Char} (within : WithinLimit word) (bad : BadNumber) :
    wordFault? word = some bad ↔ Unreadable word ∧ bad = .notDecimal word := by
  by_cases digits : word.all Text.isDigit
  · have each := List.all_eq_true.mp digits
    have short : ¬ Overlong.limit < (word.takeWhile Text.isDecimal).length :=
      Nat.not_lt.mpr (within each)
    rw [wordFault?, if_pos digits, groupNumber, if_neg short]
    by_cases other : ∃ c ∈ word, Text.isDecimal c = false
    · rw [if_pos ((takeWhile_length_lt_iff _ _).mpr other), and_iff_right ⟨each, other⟩,
        Option.some.injEq, eq_comm]
    · rw [if_neg (mt (takeWhile_length_lt_iff _ _).mp other)]
      simp only [reduceCtorEq, false_iff]
      exact fun both => other both.1.other
  · rw [wordFault?, if_neg digits]
    simp only [reduceCtorEq, false_iff]
    exact fun both => digits (List.all_eq_true.mpr both.1.digits)

theorem wordFault?_eq_none_iff {word : List Char} (within : WithinLimit word) :
    wordFault? word = none ↔ ¬ Unreadable word := by
  rw [Option.eq_none_iff_forall_ne_some]
  constructor
  · exact fun sound unreadable => sound _ ((wordFault?_eq_some_iff within _).mpr ⟨unreadable, rfl⟩)
  · exact fun readable bad found => readable ((wordFault?_eq_some_iff within bad).mp found).1

/-! ### Templates that cannot be expanded -/

theorem fault?_eq_findSome? (parts : List Piece) :
    fault? parts = (parts.filterMap Piece.word?).findSome? wordFault? := by
  induction parts with
  | nil => rfl
  | cons piece rest ih =>
    cases piece with
    | literal c => exact ih
    | reference word =>
      rw [fault?, ih,
        List.filterMap_cons_some (show Piece.word? (.reference word) = some word from rfl),
        List.findSome?_cons]
      cases wordFault? word <;> rfl

/-- A template fails at the first of its words that fails, whatever has matched. -/
theorem expand_eq_error_iff (template : List Char) (m : Match) (bad : BadNumber) :
    expand template m = .error bad ↔ (words template).findSome? wordFault? = some bad := by
  rw [expand, fill_eq_error_iff, fault?_eq_findSome?, words]

/-- The limit on the digits of a number apart, a template cannot be expanded if, and only if, it
refers to a word of digits one of which belongs to no numeral. The first such word is the error.
Every other template is expanded, whatever the numbers and names of the groups it refers to. -/
theorem expand_fails_iff {template : List Char}
    (within : ∀ found, Scans template found → ∀ word ∈ found, WithinLimit word) (m : Match) :
    (∀ bad, expand template m = .error bad ↔
      ∃ before word after, Scans template (before ++ word :: after) ∧
        (∀ earlier ∈ before, ¬ Unreadable earlier) ∧ Unreadable word ∧ bad = .notDecimal word) ∧
    ((∃ text, expand template m = .ok text) ↔
      ∃ found, Scans template found ∧ ∀ word ∈ found, ¬ Unreadable word) := by
  have each : ∀ word ∈ words template, WithinLimit word := within _ (scans_iff.mpr rfl)
  constructor
  · intro bad
    rw [expand_eq_error_iff, List.findSome?_eq_some_iff]
    constructor
    · rintro ⟨before, word, after, split, found, sound⟩
      rw [split] at each
      obtain ⟨unreadable, named⟩ := (wordFault?_eq_some_iff (each word (by simp)) bad).mp found
      refine ⟨before, word, after, scans_iff.mpr split.symm, fun earlier member => ?_, unreadable,
        named⟩
      exact (wordFault?_eq_none_iff (each earlier (List.mem_append_left _ member))).mp
        (sound earlier member)
    · rintro ⟨before, word, after, scans, sound, unreadable, named⟩
      have split := scans_iff.mp scans
      rw [← split] at each
      refine ⟨before, word, after, split.symm, ?_, fun earlier member => ?_⟩
      · exact (wordFault?_eq_some_iff (each word (by simp)) bad).mpr ⟨unreadable, named⟩
      · exact (wordFault?_eq_none_iff (each earlier (List.mem_append_left _ member))).mpr
          (sound earlier member)
  · have expands : (∃ text, expand template m = .ok text) ↔
        (words template).findSome? wordFault? = none := by
      rw [Option.eq_none_iff_forall_ne_some]
      constructor
      · rintro ⟨text, expanded⟩ bad found
        rw [(expand_eq_error_iff template m bad).mpr found] at expanded
        cases expanded
      · intro sound
        cases expanded : expand template m with
        | error bad => exact absurd ((expand_eq_error_iff template m bad).mp expanded) (sound bad)
        | ok text => exact ⟨text, rfl⟩
    rw [expands, List.findSome?_eq_none_iff]
    constructor
    · exact fun sound => ⟨_, scans_iff.mpr rfl, fun word member =>
        (wordFault?_eq_none_iff (each word member)).mp (sound word member)⟩
    · rintro ⟨found, scans, readable⟩ word member
      obtain rfl := scans_iff.mp scans
      exact (wordFault?_eq_none_iff (each word member)).mpr (readable word member)

/-- A name with a digit that belongs to no numeral, a number without one, and two with one. -/
def superscripts : List Char := "$x³/$٣:$\x7b1²\x7d$²".toList

theorem words_superscripts :
    words superscripts = ["x³".toList, "٣".toList, "1²".toList, "²".toList] := by
  decide

/-- The third word is the error: the one in front of it is a number of another script. -/
theorem expand_fails_superscripts :
    (∀ found, Scans superscripts found → ∀ word ∈ found, WithinLimit word) ∧
      expand superscripts dollars = .error (.notDecimal "1²".toList) ∧
      ¬ ∃ text, expand superscripts dollars = .ok text := by
  have within : ∀ found, Scans superscripts found → ∀ word ∈ found, WithinLimit word := by
    intro found scans word member _
    rw [scans_iff.mp scans, words_superscripts] at member
    have short : word.length ≤ 2 := by
      simp only [List.mem_cons, List.not_mem_nil, or_false] at member
      obtain rfl | rfl | rfl | rfl := member <;> decide
    have front := (List.takeWhile_prefix Text.isDecimal (l := word)).length_le
    exact front.trans (short.trans (by decide))
  obtain ⟨errors, texts⟩ := expand_fails_iff within dollars
  have unreadable : Unreadable "1²".toList :=
    ⟨List.all_eq_true.mp (by decide), '²', by decide, by decide⟩
  have sound : ∀ earlier ∈ ["x³".toList, "٣".toList], ¬ Unreadable earlier := by
    intro earlier member bad
    simp only [List.mem_cons, List.not_mem_nil, or_false] at member
    obtain rfl | rfl := member
    · exact absurd (bad.digits 'x' (by decide)) (by decide)
    · obtain ⟨c, inside, other⟩ := bad.other
      obtain rfl := List.mem_singleton.mp inside
      exact absurd other (by decide)
  refine ⟨within, (errors _).mpr ⟨_, _, ["²".toList], scans_iff.mpr words_superscripts.symm, sound,
    unreadable, rfl⟩, fun expanded => ?_⟩
  obtain ⟨found, scans, readable⟩ := texts.mp expanded
  rw [scans_iff.mp scans, words_superscripts] at readable
  exact readable _ (by simp) unreadable

end Upkeep.Relabel
