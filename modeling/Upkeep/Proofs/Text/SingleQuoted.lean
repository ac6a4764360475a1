import Mathlib.Data.List.Basic

/-! Texts in single quotes, in which a quote is written twice. Such a text ends at the first quote
that is not doubled. Nothing here looks at line breaks, which would be folded: the reading is that of
a text on one line. -/
namespace Upkeep.Text

/-- The text with each of its quotes written twice. -/
def doubled : List Char → List Char
  | [] => []
  | c :: rest => if c = '\'' then '\'' :: '\'' :: doubled rest else c :: doubled rest

/-- What is read behind an opening quote, and what is left behind the closing one. -/
def readQuoted? : List Char → Option (List Char × List Char)
  | [] => none
  | '\'' :: '\'' :: rest => (readQuoted? rest).map fun read => ('\'' :: read.1, read.2)
  | '\'' :: rest => some ([], rest)
  | c :: rest => (readQuoted? rest).map fun read => (c :: read.1, read.2)

theorem doubled_quote (rest : List Char) :
    doubled ('\'' :: rest) = '\'' :: '\'' :: doubled rest := rfl

theorem doubled_cons {c : Char} (other : c ≠ '\'') (rest : List Char) :
    doubled (c :: rest) = c :: doubled rest := if_neg other

theorem readQuoted?_cons {c : Char} (other : c ≠ '\'') (rest : List Char) :
    readQuoted? (c :: rest) = (readQuoted? rest).map fun read => (c :: read.1, read.2) := by
  rw [readQuoted?] <;> simp [other]

theorem readQuoted?_closing {rest : List Char} (single : rest.head? ≠ some '\'') :
    readQuoted? ('\'' :: rest) = some ([], rest) := by
  cases rest with
  | nil => rfl
  | cons c rest =>
    have other : c ≠ '\'' := by simpa using single
    rw [readQuoted?]
    rintro again later
    cases later
    exact other rfl

theorem readQuoted?_doubled (value : List Char) {rest : List Char}
    (single : rest.head? ≠ some '\'') :
    readQuoted? (doubled value ++ '\'' :: rest) = some (value, rest) := by
  induction value with
  | nil => exact readQuoted?_closing single
  | cons c value ih =>
    by_cases quote : c = '\''
    · subst quote
      rw [doubled_quote, List.cons_append, List.cons_append, readQuoted?, ih]
      rfl
    · rw [doubled_cons quote, List.cons_append, readQuoted?_cons quote, ih]
      rfl

theorem eq_doubled_of_readQuoted? {text value rest : List Char}
    (read : readQuoted? text = some (value, rest)) :
    text = doubled value ++ '\'' :: rest ∧ rest.head? ≠ some '\'' := by
  fun_induction readQuoted? text generalizing value rest with
  | case1 => cases read
  | case2 later ih =>
    obtain ⟨⟨front, behind⟩, first, made⟩ := Option.map_eq_some_iff.mp read
    cases made
    obtain ⟨rfl, single⟩ := ih first
    exact ⟨rfl, single⟩
  | case3 later notDoubled =>
    cases read
    refine ⟨rfl, ?_⟩
    intro quote
    obtain ⟨tail, rfl⟩ := List.head?_eq_some_iff.mp quote
    exact notDoubled tail rfl
  | case4 c later _ plain ih =>
    obtain ⟨⟨front, behind⟩, first, made⟩ := Option.map_eq_some_iff.mp read
    cases made
    obtain ⟨rfl, single⟩ := ih first
    exact ⟨by rw [doubled_cons plain]; rfl, single⟩

/-- What is read is what was written with its quotes doubled, up to a quote that stands alone. -/
theorem readQuoted?_eq_some_iff (text value rest : List Char) :
    readQuoted? text = some (value, rest) ↔
      text = doubled value ++ '\'' :: rest ∧ rest.head? ≠ some '\'' := by
  constructor
  · exact eq_doubled_of_readQuoted?
  · rintro ⟨rfl, single⟩
    exact readQuoted?_doubled value single

theorem length_le_length_doubled (text : List Char) : text.length ≤ (doubled text).length := by
  induction text with
  | nil => exact Nat.le_refl 0
  | cons c rest ih =>
    rw [doubled]
    split <;> simp only [List.length_cons] <;> omega

/-- A text is its own doubled form if it has no quote, and only then. -/
theorem doubled_eq_self_iff (text : List Char) : doubled text = text ↔ '\'' ∉ text := by
  induction text with
  | nil => simp [doubled]
  | cons c rest ih =>
    by_cases quote : c = '\''
    · subst quote
      refine iff_of_false ?_ (not_not_intro List.mem_cons_self)
      intro same
      have longer := length_le_length_doubled rest
      have lengths := congrArg List.length same
      rw [doubled_quote] at lengths
      simp only [List.length_cons] at lengths
      omega
    · rw [doubled_cons quote]
      simp [ih, Ne.symm quote]

end Upkeep.Text
