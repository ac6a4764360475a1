import Mathlib.Data.List.Infix
import Upkeep.Proofs.Relabel.Template
import Upkeep.Regex.Reader

/-! The reading of replacement texts that rules are documented to have, and how far the one here keeps
to it. They part at two dollar signs in a row, which the standard takes for one, at digits with a zero in
front of others, which it takes for a name, and at numbers that are too long to be read here, and nowhere
else in ASCII. -/
namespace Upkeep.Relabel
open Regex (Match)

/-! ### The standard reading -/

/-- A letter, a digit or a low line. -/
def isNameChar (c : Char) : Bool := c.isAlphanum || c == '_'

/-- A name is a number if it is made of digits, without a zero in front of others. -/
def isNumber (name : List Char) : Bool :=
  name.all Char.isDigit && (name.length == 1 || name.head? != some '0')

/-- The number of the group that a name refers to, if it refers to any. -/
def nameIndex? (m : Match) (name : List Char) : Option Nat :=
  if isNumber name then some (Numeral.natural name) else m.regex.names.lookup name

/-- What a name stands for: nothing, if there is no such group or it has not taken part. -/
def nameText (m : Match) (name : List Char) : List Char :=
  ((nameIndex? m name).bind (groupText? m)).getD []

/-- What a template stands for by the standard reading, from left to right: two dollar signs stand
for one, a name for the text of its group, and any other dollar sign for itself. -/
def standard (m : Match) : List Char → List Char
  | [] => []
  | '$' :: '$' :: rest => '$' :: standard m rest
  | '$' :: text =>
    match _ : wordBehind? isNameChar text with
    | some (name, rest) => nameText m name ++ standard m rest
    | none => '$' :: standard m text
  | c :: rest => c :: standard m rest
termination_by template => template.length
decreasing_by
  · simp only [List.length_cons]
    omega
  · exact Nat.lt_succ_of_lt (refers_of_wordBehind? ‹_›).length_lt
  · exact Nat.lt_succ_self _
  · exact Nat.lt_succ_self _

/-! What each beginning of a template gives. -/

theorem standard_plain (m : Match) {c : Char} (other : c ≠ '$') (rest : List Char) :
    standard m (c :: rest) = c :: standard m rest := by
  rw [standard]
  · exact fun _ dollar _ => other dollar
  · exact other

theorem standard_dollars (m : Match) (rest : List Char) :
    standard m ('$' :: '$' :: rest) = '$' :: standard m rest := by
  rw [standard]

theorem standard_name (m : Match) {text name rest : List Char}
    (refers : Refers isNameChar text name rest) :
    standard m ('$' :: text) = nameText m name ++ standard m rest := by
  have found := wordBehind?_of_refers (by decide) refers
  have other : ∀ left, text ≠ '$' :: left := by
    rintro left rfl
    rw [show wordBehind? isNameChar ('$' :: left) = none from rfl] at found
    cases found
  rw [standard]
  · split
    · rename_i name' rest' found'
      obtain ⟨rfl, rfl⟩ := Prod.mk.inj (Option.some.inj (found.symm.trans found'))
      rfl
    · rename_i missed
      rw [found] at missed
      cases missed
  · exact other

theorem standard_malformed (m : Match) {text : List Char} (single : ∀ rest, text ≠ '$' :: rest)
    (malformed : wordBehind? isNameChar text = none) :
    standard m ('$' :: text) = '$' :: standard m text := by
  rw [standard]
  · split
    · rename_i name rest found
      rw [malformed] at found
      cases found
    · rfl
  · exact single

/-! ### ASCII -/

/-- A character of ASCII. -/
def IsAscii (c : Char) : Prop := c.toNat < 128

namespace IsAscii
variable {c : Char}

theorem isWord_eq (ascii : IsAscii c) : Text.isWord c = isNameChar c := by
  have each : ∀ n < 128, Text.isWord (Char.ofNat n) = isNameChar (Char.ofNat n) := by decide
  exact Char.ofNat_toNat c ▸ each _ ascii

theorem isDigit_eq (ascii : IsAscii c) : Text.isDigit c = c.isDigit := by
  have each : ∀ n < 128, Text.isDigit (Char.ofNat n) = (Char.ofNat n).isDigit := by decide
  exact Char.ofNat_toNat c ▸ each _ ascii

theorem isDecimal_eq (ascii : IsAscii c) : Text.isDecimal c = c.isDigit := by
  have each : ∀ n < 128, Text.isDecimal (Char.ofNat n) = (Char.ofNat n).isDigit := by decide
  exact Char.ofNat_toNat c ▸ each _ ascii

theorem plainDigits_eq (ascii : IsAscii c) : Numeral.plainDigits [c] = [c] := by
  have each : ∀ n < 128, Numeral.plainDigits [Char.ofNat n] = [Char.ofNat n] := by decide
  exact Char.ofNat_toNat c ▸ each _ ascii

end IsAscii

section
variable {word : List Char} (ascii : ∀ c ∈ word, IsAscii c)
include ascii

theorem all_isDigit_eq : word.all Text.isDigit = word.all Char.isDigit := by
  rw [Bool.eq_iff_iff, List.all_eq_true, List.all_eq_true]
  exact forall₂_congr fun c member => by rw [(ascii c member).isDigit_eq]

theorem plainDigits_eq : Numeral.plainDigits word = word := by
  induction word with
  | nil => rfl
  | cons c rest ih =>
    obtain ⟨here, others⟩ := List.forall_mem_cons.mp ascii
    have split : Numeral.plainDigits (c :: rest) =
      Numeral.plainDigits [c] ++ Numeral.plainDigits rest := rfl
    rw [split, here.plainDigits_eq, ih others]
    rfl

theorem reference?_eq_of_ascii : reference? word = wordBehind? isNameChar word :=
  wordBehind?_congr (by decide) (by decide) fun c member => (ascii c member).isWord_eq

theorem takeWhile_isDecimal_eq (digits : word.all Char.isDigit) :
    word.takeWhile Text.isDecimal = word := by
  rw [List.takeWhile_eq_self_iff]
  intro c member
  rw [(ascii c member).isDecimal_eq]
  exact List.all_eq_true.mp digits c member

theorem groupNumber_eq (digits : word.all Char.isDigit) :
    groupNumber word = if Overlong.limit < word.length then .error (.overlong ⟨word.length⟩)
      else .ok (Numeral.natural word) := by
  rw [groupNumber]
  simp [takeWhile_isDecimal_eq ascii digits, plainDigits_eq ascii]

end

/-! ### Agreement -/

/-- Digits with a zero in front of others. -/
def Padded (word : List Char) : Prop := word.all Char.isDigit ∧ ¬ isNumber word

/-- A template that both readings take for the same: no two dollar signs follow one another, no word
of digits has a zero in front of others, and none has more digits than can be read. -/
structure Unequivocal (template : List Char) : Prop where
  single : ¬ ['$', '$'] <:+: template
  unpadded : ∀ word, .reference word ∈ pieces template → ¬ Padded word
  short : ∀ word, .reference word ∈ pieces template → word.all Char.isDigit →
    word.length ≤ Overlong.limit

theorem resolve_eq_nameText (m : Match) {word : List Char} (ascii : ∀ c ∈ word, IsAscii c)
    (unpadded : ¬ Padded word) (short : word.all Char.isDigit → word.length ≤ Overlong.limit) :
    resolve m word = .ok (nameText m word) := by
  rw [resolve, all_isDigit_eq ascii, nameText, nameIndex?]
  by_cases digits : word.all Char.isDigit
  · have number : isNumber word := by
      by_contra zero
      exact unpadded ⟨digits, zero⟩
    rw [if_pos digits, if_pos number, groupNumber_eq ascii digits,
      if_neg (Nat.not_lt.mpr (short digits))]
    exact congrArg Except.ok (numbered_eq m _)
  · have named : ¬ isNumber word := fun number => digits (Bool.and_eq_true_iff.mp number).1
    rw [if_neg digits, if_neg named, Match.named]
    cases m.regex.names.lookup word with
    | none => rfl
    | some index => exact congrArg Except.ok (numbered_eq m index)

namespace Unequivocal
variable {template rest : List Char}

theorem of_suffix (clear : Unequivocal template) (suffix : rest <:+ template)
    (within : ∀ piece ∈ pieces rest, piece ∈ pieces template) : Unequivocal rest where
  single doubled := clear.single (doubled.trans suffix.isInfix)
  unpadded word referred := clear.unpadded word (within _ referred)
  short word referred := clear.short word (within _ referred)

/-- Both readings of such a template are the same. -/
theorem expand_eq (clear : Unequivocal template) (ascii : ∀ c ∈ template, IsAscii c) (m : Match) :
    expand template m = .ok (standard m template) := by
  induction template using templateInduction with
  | nil => rw [standard]; rfl
  | plain c rest other ih =>
    have cut := pieces_plain other rest
    have later := ih (clear.of_suffix (List.suffix_cons c rest) fun piece member =>
      cut ▸ List.mem_cons_of_mem _ member) fun d member => ascii d (List.mem_cons_of_mem c member)
    rw [expand_character cut, later, standard_plain m other]
    rfl
  | reference text word rest refers ih =>
    have cut := pieces_reference refers
    have within : ∀ c ∈ text, IsAscii c := fun c member => ascii c (List.mem_cons_of_mem _ member)
    have later := ih (clear.of_suffix (refers.suffix.trans (List.suffix_cons _ text))
      fun piece member => cut ▸ List.mem_cons_of_mem _ member) fun c member =>
      within c (refers.suffix.subset member)
    have here : .reference word ∈ pieces ('$' :: text) := cut ▸ List.mem_cons_self
    have resolved := resolve_eq_nameText m (fun c member => within c (refers.mem_of_mem c member))
      (clear.unpadded word here) (clear.short word here)
    rw [expand_reference refers resolved, later, ← resolve_eq_of_ok resolved,
      standard_name m (refers.congr fun c member => (within c member).isWord_eq)]
    rfl
  | dollar text malformed ih =>
    have cut := pieces_dollar malformed
    have within : ∀ c ∈ text, IsAscii c := fun c member => ascii c (List.mem_cons_of_mem _ member)
    have later := ih (clear.of_suffix (List.suffix_cons _ text) fun piece member =>
      cut ▸ List.mem_cons_of_mem _ member) within
    have single : ∀ rest, text ≠ '$' :: rest := by
      rintro rest rfl
      exact clear.single ⟨[], rest, rfl⟩
    rw [reference?_eq_of_ascii within] at malformed
    rw [expand_character cut, later, standard_malformed m single malformed]
    rfl

end Unequivocal

/-! ### Disagreement -/

/-- A match in which each group that one of the words refers to is a dollar sign; no group has the
name of a word of digits. So the dollar signs that come out tell how the words were read. -/
def dollarMatch (words : List (List Char)) : Match where
  regex := ⟨.empty, 0, (words.filter fun word => !word.all Char.isDigit).map fun word => (word, 0)⟩
  whole := ['$']
  rest := []
  captures := words.map fun word => (Numeral.natural word, ['$'])

theorem lookup_constant {α β γ : Type} [BEq β] [LawfulBEq β] (f : α → β) (value : γ) (xs : List α)
    (key : β) : (xs.map fun x => (f x, value)).lookup key =
      if xs.any fun x => key == f x then some value else none := by
  induction xs with
  | nil => rfl
  | cons x rest ih =>
    rw [List.map_cons, List.lookup_cons, List.any_cons, ih]
    cases key == f x <;> rfl

section
variable {words : List (List Char)} {word : List Char}

theorem groupText?_dollarMatch {index : Nat} {text : List Char}
    (found : groupText? (dollarMatch words) index = some text) : text = ['$'] := by
  rw [groupText?, dollarMatch] at found
  split at found
  · exact (Option.some.inj found).symm
  · rw [lookup_constant] at found
    split at found
    · exact (Option.some.inj found).symm
    · cases found

theorem nameText_dollarMatch (words : List (List Char)) (name : List Char) :
    (nameText (dollarMatch words) name).count '$' ≤ 1 := by
  rw [nameText]
  cases found : (nameIndex? (dollarMatch words) name).bind (groupText? (dollarMatch words)) with
  | none => exact Nat.zero_le _
  | some text =>
    obtain ⟨index, _, given⟩ := Option.bind_eq_some_iff.mp found
    rw [groupText?_dollarMatch given]
    exact Nat.le_refl 1

/-- No group has such a name. -/
theorem nameText_of_padded {name : List Char} (padded : Padded name) :
    nameText (dollarMatch words) name = [] := by
  have unnamed : (dollarMatch words).regex.names.lookup name = none := by
    rw [dollarMatch, lookup_constant fun word => word, if_neg]
    intro found
    obtain ⟨word, member, same⟩ := List.any_eq_true.mp found
    obtain rfl := eq_of_beq same
    simp [padded.1] at member
  rw [nameText, nameIndex?, if_neg padded.2, unnamed]
  rfl

theorem resolve_dollarMatch (member : word ∈ words) (ascii : ∀ c ∈ word, IsAscii c)
    (short : word.all Char.isDigit → word.length ≤ Overlong.limit) :
    resolve (dollarMatch words) word = .ok ['$'] := by
  rw [resolve, all_isDigit_eq ascii]
  by_cases digits : word.all Char.isDigit
  · rw [if_pos digits, groupNumber_eq ascii digits, if_neg (Nat.not_lt.mpr (short digits))]
    have held : (words.map fun word => (Numeral.natural word, ['$'])).lookup
        (Numeral.natural word) = some ['$'] := by
      rw [lookup_constant, if_pos]
      exact List.any_eq_true.mpr ⟨word, member, beq_self_eq_true _⟩
    simp [Except.map, Match.numbered, dollarMatch, held]
  · have held : ((words.filter fun word => !word.all Char.isDigit).map fun word => (word, 0)).lookup
        word = some 0 := by
      rw [lookup_constant fun word => word, if_pos]
      exact List.any_eq_true.mpr
        ⟨word, List.mem_filter.mpr ⟨member, by simpa using digits⟩, beq_self_eq_true word⟩
    rw [if_neg digits]
    simp [Match.named, Match.numbered, dollarMatch, held]

end

/-- In front of what is left there is no dollar sign. -/
theorem Refers.without_dollar {inside : Char → Bool} {text word rest : List Char}
    (outside : inside '$' = false) (refers : Refers inside text word rest) :
    ∃ front, text = front ++ rest ∧ '$' ∉ front := by
  obtain ⟨front, _, split, within⟩ := refers.front
  refine ⟨front, split, fun member => ?_⟩
  rcases within '$' member with word | opening | closing
  · rw [outside] at word
    cases word
  · exact absurd opening (by decide)
  · exact absurd closing (by decide)

/-- Where each reference gives a dollar sign, as many come out as went in. -/
theorem count_expand {m : Match} {template : List Char}
    (each : ∀ word, .reference word ∈ pieces template → resolve m word = .ok ['$']) :
    ∃ text, expand template m = .ok text ∧ text.count '$' = template.count '$' := by
  induction template using templateInduction with
  | nil => exact ⟨[], rfl, rfl⟩
  | plain c rest other ih =>
    have cut := pieces_plain other rest
    obtain ⟨text, expanded, count⟩ := ih fun word member =>
      each word (cut ▸ List.mem_cons_of_mem _ member)
    refine ⟨c :: text, ?_, ?_⟩
    · rw [expand_character cut, expanded]
      rfl
    · rw [List.count_cons, List.count_cons, count]
  | reference text word rest refers ih =>
    have cut := pieces_reference refers
    obtain ⟨others, expanded, count⟩ := ih fun word member =>
      each word (cut ▸ List.mem_cons_of_mem _ member)
    have resolved := each word (cut ▸ List.mem_cons_self)
    obtain ⟨front, rfl, without⟩ := refers.without_dollar (by decide)
    refine ⟨'$' :: others, ?_, ?_⟩
    · rw [expand_reference refers resolved, ← resolve_eq_of_ok resolved, expanded]
      rfl
    · rw [List.count_cons, List.count_cons, List.count_append, List.count_eq_zero.mpr without, count,
        Nat.zero_add]
  | dollar text malformed ih =>
    have cut := pieces_dollar malformed
    obtain ⟨others, expanded, count⟩ := ih fun word member =>
      each word (cut ▸ List.mem_cons_of_mem _ member)
    refine ⟨'$' :: others, ?_, ?_⟩
    · rw [expand_character cut, expanded]
      rfl
    · rw [List.count_cons, List.count_cons, count]

/-- Two dollar signs follow one another at the beginning or later on. -/
theorem doubled_cons_iff {c : Char} {rest : List Char} :
    ['$', '$'] <:+: c :: rest ↔ (c = '$' ∧ ∃ left, rest = '$' :: left) ∨ ['$', '$'] <:+: rest := by
  rw [List.infix_cons_iff]
  apply or_congr_left
  constructor
  · rintro ⟨left, same⟩
    obtain ⟨rfl, rest⟩ := List.cons.inj same
    exact ⟨rfl, left, rest.symm⟩
  · rintro ⟨rfl, left, rfl⟩
    exact ⟨left, rfl⟩

theorem doubled_of_append {front rest : List Char} (without : '$' ∉ front)
    (doubled : ['$', '$'] <:+: front ++ rest) : ['$', '$'] <:+: rest := by
  induction front with
  | nil => exact doubled
  | cons c front ih =>
    obtain ⟨other, others⟩ := not_or.mp (mt List.mem_cons.mpr without)
    rcases doubled_cons_iff.mp doubled with ⟨rfl, _⟩ | later
    · exact absurd rfl other
    · exact ih others later

/-- The two readings of a template part: it has two dollar signs in a row, or digits with a zero in
front of others. -/
def Equivocal (template : List Char) : Prop :=
  ['$', '$'] <:+: template ∨ ∃ word, .reference word ∈ pieces template ∧ Padded word

namespace Equivocal
variable {c : Char} {text word rest : List Char}

theorem not_nil : ¬ Equivocal [] := by
  rintro (doubled | ⟨word, referred, _⟩)
  · simp at doubled
  · cases referred

theorem of_character (equivocal : Equivocal (c :: rest))
    (cut : pieces (c :: rest) = .literal c :: pieces rest)
    (single : c = '$' → ∀ left, rest ≠ '$' :: left) : Equivocal rest := by
  rcases equivocal with doubled | ⟨word, referred, padded⟩
  · rcases doubled_cons_iff.mp doubled with ⟨dollar, left, again⟩ | later
    · exact absurd again (single dollar left)
    · exact .inl later
  · rw [cut] at referred
    exact .inr ⟨word, by simpa using referred, padded⟩

theorem of_reference (equivocal : Equivocal ('$' :: text))
    (refers : Refers Text.isWord text word rest) : Padded word ∨ Equivocal rest := by
  rcases equivocal with doubled | ⟨other, referred, padded⟩
  · obtain ⟨front, some, rfl, _⟩ := refers.front
    obtain ⟨front', same, without⟩ := refers.without_dollar (by decide)
    obtain rfl := List.append_cancel_right same
    refine .inr (.inl (doubled_of_append without ?_))
    rcases doubled_cons_iff.mp doubled with ⟨_, left, again⟩ | later
    · obtain ⟨c, front, rfl⟩ := List.exists_cons_of_ne_nil some
      exact absurd (List.cons.inj again).1 fun same => without (same ▸ List.mem_cons_self)
    · exact later
  · rw [pieces_reference refers] at referred
    rcases List.mem_cons.mp referred with same | later
    · cases same
      exact .inl padded
    · exact .inr (.inr ⟨other, later, padded⟩)

end Equivocal

section
variable {m : Match} (few : ∀ name, (nameText m name).count '$' ≤ 1)
include few

/-- By the standard reading no more dollar signs come out than went in, if each group has one. -/
theorem count_standard_le (template : List Char) :
    (standard m template).count '$' ≤ template.count '$' := by
  induction template using standard.induct with
  | case1 => rw [standard]
  | case2 rest ih =>
    rw [standard_dollars]
    simp only [List.count_cons_self]
    omega
  | case3 text single name rest found ih =>
    have refers := refers_of_wordBehind? found
    obtain ⟨front, rfl, without⟩ := refers.without_dollar (by decide)
    have := few name
    rw [standard_name m refers, List.count_append, List.count_cons_self, List.count_append,
      List.count_eq_zero.mpr without]
    omega
  | case4 text single malformed ih =>
    rw [standard_malformed m single malformed, List.count_cons_self, List.count_cons_self]
    omega
  | case5 c rest _ other ih =>
    rw [standard_plain m other, List.count_cons, List.count_cons]
    omega

/-- Fewer come out where the readings part, if no group has such digits for its name. -/
theorem count_standard_lt (none : ∀ name, Padded name → nameText m name = [])
    {template : List Char} (ascii : ∀ c ∈ template, IsAscii c) (equivocal : Equivocal template) :
    (standard m template).count '$' < template.count '$' := by
  induction template using standard.induct with
  | case1 => exact absurd equivocal Equivocal.not_nil
  | case2 rest ih =>
    have := count_standard_le few rest
    rw [standard_dollars, List.count_cons_self, List.count_cons_self, List.count_cons_self]
    omega
  | case3 text single name rest found ih =>
    have refers := refers_of_wordBehind? found
    have within : ∀ c ∈ text, IsAscii c := fun c member => ascii c (List.mem_cons_of_mem _ member)
    have read := refers.congr fun c member => (within c member).isWord_eq.symm
    obtain ⟨front, split, without⟩ := refers.without_dollar (by decide)
    have count : text.count '$' = rest.count '$' := by
      rw [split, List.count_append, List.count_eq_zero.mpr without, Nat.zero_add]
    rw [standard_name m refers, List.count_append, List.count_cons_self, count]
    rcases equivocal.of_reference read with padded | later
    · have := count_standard_le few rest
      rw [none name padded, List.count_nil]
      omega
    · have := few name
      have := ih (fun c member => within c (refers.suffix.subset member)) later
      omega
  | case4 text single malformed ih =>
    have within : ∀ c ∈ text, IsAscii c := fun c member => ascii c (List.mem_cons_of_mem _ member)
    have cut := pieces_dollar ((reference?_eq_of_ascii within).trans malformed)
    have := ih within (equivocal.of_character cut fun _ left => single left)
    rw [standard_malformed m single malformed, List.count_cons_self, List.count_cons_self]
    omega
  | case5 c rest _ other ih =>
    have := ih (fun d member => ascii d (List.mem_cons_of_mem c member))
      (equivocal.of_character (pieces_plain other rest) fun dollar => absurd dollar other)
    rw [standard_plain m other, List.count_cons, List.count_cons]
    omega

end

/-- One word that cannot be resolved is enough for a template to fail. -/
theorem fill_of_unresolved {m : Match} {parts : List Piece} {word : List Char} {bad : BadNumber}
    (referred : .reference word ∈ parts) (failed : resolve m word = .error bad) :
    ∃ first, fill m parts = .error first := by
  induction parts with
  | nil => cases referred
  | cons piece rest ih =>
    rcases List.mem_cons.mp referred with same | later
    · exact ⟨bad, by rw [← same, fill, failed]⟩
    · obtain ⟨first, others⟩ := ih later
      cases piece with
      | literal c => exact ⟨first, by rw [fill, others]; rfl⟩
      | reference other =>
        cases resolved : resolve m other with
        | error bad => exact ⟨bad, by rw [fill, resolved]⟩
        | ok text => exact ⟨first, by rw [fill, resolved, others]; rfl⟩

section
variable {template : List Char} (ascii : ∀ c ∈ template, IsAscii c)
include ascii

theorem ascii_of_reference {word : List Char} (member : .reference word ∈ pieces template) :
    ∀ c ∈ word, IsAscii c :=
  fun c inside => ascii c (mem_of_reference member c inside)

/-- A template that can be expanded has no number that is too long to be read. -/
theorem short_of_expand {m : Match} {text : List Char} (expanded : expand template m = .ok text)
    {word : List Char} (member : .reference word ∈ pieces template) (digits : word.all Char.isDigit) :
    word.length ≤ Overlong.limit := by
  have within := ascii_of_reference ascii member
  by_contra long
  have failed : resolve m word = .error (.overlong ⟨word.length⟩) := by
    rw [resolve, all_isDigit_eq within, if_pos digits, groupNumber_eq within digits,
      if_pos (Nat.lt_of_not_le long)]
    rfl
  obtain ⟨first, fails⟩ := fill_of_unresolved member failed
  cases expanded.symm.trans fails

/-- Where the readings part, the dollar signs that come out are not as many. -/
theorem not_equivocal_of_expand
    (expanded : expand template (dollarMatch (words template)) =
      .ok (standard (dollarMatch (words template)) template)) : ¬ Equivocal template := by
  intro equivocal
  have each : ∀ word, .reference word ∈ pieces template →
      resolve (dollarMatch (words template)) word = .ok ['$'] := fun word member =>
    resolve_dollarMatch (mem_words member) (ascii_of_reference ascii member)
      (short_of_expand ascii expanded member)
  obtain ⟨text, expanded', count⟩ := count_expand each
  obtain rfl := Except.ok.inj (expanded.symm.trans expanded')
  have fewer := count_standard_lt (nameText_dollarMatch (words template))
    (fun _ padded => nameText_of_padded padded) ascii equivocal
  exact absurd count (Nat.ne_of_lt fewer)

end

/-- The expansion of an ASCII template is the standard one for every match if, and only if, the template
has no two dollar signs in a row, no digits with a zero in front of others to refer to, and no number
that is too long. -/
theorem expand_eq_standard_iff {template : List Char} (ascii : ∀ c ∈ template, c.toNat < 128) :
    (∀ m, expand template m = .ok (standard m template)) ↔ Unequivocal template := by
  constructor
  · intro standardly
    have expanded := standardly (dollarMatch (words template))
    have together := not_equivocal_of_expand ascii expanded
    exact ⟨fun doubled => together (.inl doubled),
      fun word member padded => together (.inr ⟨word, member, padded⟩),
      fun word member => short_of_expand ascii expanded member⟩
  · exact fun clear m => clear.expand_eq ascii m

/-- A template with a group by number and by name. -/
theorem expand_eq_standard_path :
    (∀ c ∈ "$\x7b1\x7d:$pod/".toList, c.toNat < 128) ∧ Unequivocal "$\x7b1\x7d:$pod/".toList ∧
      ∀ m, expand "$\x7b1\x7d:$pod/".toList m = .ok (standard m "$\x7b1\x7d:$pod/".toList) := by
  have ascii : ∀ c ∈ "$\x7b1\x7d:$pod/".toList, c.toNat < 128 := by simp
  have cut : pieces "$\x7b1\x7d:$pod/".toList =
      [.reference ['1'], .literal ':', .reference ['p', 'o', 'd'], .literal '/'] := by decide
  have either : ∀ word, .reference word ∈ pieces "$\x7b1\x7d:$pod/".toList →
      word = ['1'] ∨ word = ['p', 'o', 'd'] := by
    intro word referred
    rw [cut] at referred
    simpa using referred
  have clear : Unequivocal "$\x7b1\x7d:$pod/".toList := by
    refine ⟨by decide, fun word referred => ?_, fun word referred _ => ?_⟩
    · rcases either word referred with rfl | rfl
      · exact fun padded => padded.2 (by decide)
      · exact fun padded => absurd padded.1 (by decide)
    · rcases either word referred with rfl | rfl <;> decide
  exact ⟨ascii, clear, (expand_eq_standard_iff ascii).mpr clear⟩

/-- Two dollar signs stay two, and a zero in front is passed over. -/
theorem expand_equivocal : ∃ pattern m, Regex.compile "(.)".toList = .ok pattern ∧
    pattern.matchStart "a".toList = some m ∧
    expand "$$".toList m = .ok "$$".toList ∧ standard m "$$".toList = "$".toList ∧
    expand "$01".toList m = .ok "a".toList ∧ standard m "$01".toList = "".toList := by
  have named : Refers isNameChar ("01".toList ++ []) "01".toList [] :=
    .bare (by decide) (List.all_eq_true.mp (by decide)) nofun
  refine ⟨_, _, rfl, rfl, rfl, ?_, rfl, ?_⟩
  · rw [show "$$".toList = '$' :: '$' :: [] from rfl, standard_dollars, standard]
    rfl
  · rw [show "$01".toList = '$' :: ("01".toList ++ []) from rfl, standard_name _ named, standard]
    rfl

end Upkeep.Relabel
