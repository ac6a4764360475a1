import Mathlib.Data.List.TakeWhile
import Upkeep.Proofs.Text.Scanning
import Upkeep.Regex.Reader
import Upkeep.Relabel.Template

/-! Replacement texts. A text is cut into pieces from left to right, a reference being as long as it
goes. So a text that is put together from literals and references is cut where it was put together,
and each group comes out as it is, whatever characters it is made of. -/
namespace Upkeep.Relabel
open Regex (Match)

/-! ### References -/

/-- Behind a dollar sign stand a word, in braces or as long as it goes, and what is left. -/
inductive Refers (inside : Char → Bool) : List Char → List Char → List Char → Prop
  | bare {word rest : List Char} (some : word ≠ []) (all : ∀ c ∈ word, inside c)
      (ends : ∀ c, rest.head? = Option.some c → inside c = false) :
      Refers inside (word ++ rest) word rest
  | braced {word rest : List Char} (some : word ≠ []) (all : ∀ c ∈ word, inside c) :
      Refers inside ('{' :: (word ++ '}' :: rest)) word rest

namespace Refers
variable {inside : Char → Bool} {text word rest : List Char}

/-- The word and its braces are what is in front of the rest. -/
theorem front (refers : Refers inside text word rest) : ∃ front, front ≠ [] ∧ text = front ++ rest ∧
    ∀ c ∈ front, inside c ∨ c = '{' ∨ c = '}' := by
  cases refers with
  | bare some all => exact ⟨word, some, rfl, fun c member => .inl (all c member)⟩
  | braced some all =>
    refine ⟨'{' :: (word ++ ['}']), List.cons_ne_nil _ _, by simp, fun c member => ?_⟩
    simp only [List.mem_cons, List.mem_append, List.not_mem_nil, or_false] at member
    rcases member with opening | inner | closing
    · exact .inr (.inl opening)
    · exact .inl (all c inner)
    · exact .inr (.inr closing)

theorem length_lt (refers : Refers inside text word rest) : rest.length < text.length := by
  obtain ⟨front, some, rfl, _⟩ := refers.front
  rw [List.length_append]
  exact Nat.lt_add_of_pos_left (List.length_pos_iff.mpr some)

theorem suffix (refers : Refers inside text word rest) : rest <:+ text := by
  obtain ⟨front, _, split, _⟩ := refers.front
  exact ⟨front, split.symm⟩

theorem mem_of_mem (refers : Refers inside text word rest) : ∀ c ∈ word, c ∈ text := by
  intro c member
  cases refers with
  | bare => exact List.mem_append_left _ member
  | braced => exact List.mem_cons_of_mem _ (List.mem_append_left _ member)

/-- Two sets of characters make no difference where they agree on the text. -/
theorem congr {other : Char → Bool} (same : ∀ c ∈ text, inside c = other c)
    (refers : Refers inside text word rest) : Refers other text word rest := by
  have within := refers.mem_of_mem
  cases refers with
  | bare some all ends =>
    refine .bare some (fun c member => same c (within c member) ▸ all c member) fun c next => ?_
    have member : c ∈ word ++ rest := List.mem_append_right _ (List.mem_of_mem_head? next)
    exact same c member ▸ ends c next
  | braced some all => exact .braced some fun c member => same c (within c member) ▸ all c member

end Refers

/-- The word behind a dollar sign and what is left, if there is one, for any set of characters that
words may be made of. -/
def wordBehind? (inside : Char → Bool) : List Char → Option (List Char × List Char)
  | '{' :: rest =>
    match rest.dropWhile inside with
    | '}' :: left =>
      if (rest.takeWhile inside).isEmpty then none else some (rest.takeWhile inside, left)
    | _ => none
  | rest =>
    if (rest.takeWhile inside).isEmpty then none
    else some (rest.takeWhile inside, rest.dropWhile inside)

theorem reference?_eq (text : List Char) : reference? text = wordBehind? Text.isWord text :=
  rfl

section
variable {inside : Char → Bool} {text word rest : List Char}

theorem wordBehind?_of_refers (braces : inside '{' = false ∧ inside '}' = false)
    (refers : Refers inside text word rest) : wordBehind? inside text = some (word, rest) := by
  cases refers with
  | bare some all ends =>
    obtain ⟨taken, left⟩ := Text.takeWhile_exact all ends
    cases word with
    | nil => exact absurd rfl some
    | cons c word =>
      have other : c ≠ '{' := by
        rintro rfl
        exact absurd (all _ List.mem_cons_self) (by simp [braces.1])
      rw [List.cons_append] at taken left ⊢
      rw [wordBehind?, taken, left]
      · rfl
      · exact fun _ same => other (List.cons.inj same).1
  | braced some all =>
    have closed : ∀ c, ('}' :: rest).head? = Option.some c → inside c = false := by simp [braces.2]
    obtain ⟨taken, left⟩ := Text.takeWhile_exact all closed
    rw [wordBehind?, taken, left]
    simp [some]

theorem refers_of_wordBehind? (found : wordBehind? inside text = some (word, rest)) :
    Refers inside text word rest := by
  unfold wordBehind? at found
  split at found
  · rename_i others
    have all : ∀ c ∈ others.takeWhile inside, inside c :=
      fun _ member => List.mem_takeWhile_imp member
    have whole := List.takeWhile_append_dropWhile (p := inside) (l := others)
    generalize others.takeWhile inside = taken at found all whole
    split at found
    · rename_i left close
      rw [close] at whole
      split at found
      · cases found
      · rename_i some
        obtain ⟨rfl, rfl⟩ := Prod.mk.inj (Option.some.inj found)
        exact whole ▸ .braced (by simpa using some) all
    · cases found
  · have all : ∀ c ∈ text.takeWhile inside, inside c :=
      fun _ member => List.mem_takeWhile_imp member
    have whole := List.takeWhile_append_dropWhile (p := inside) (l := text)
    have ends : ∀ c, (text.dropWhile inside).head? = some c → inside c = false := by
      intro c next
      have stops := List.head?_dropWhile_not inside text
      rw [next] at stops
      simpa using stops
    generalize text.takeWhile inside = taken at found all whole
    generalize text.dropWhile inside = left at found ends whole
    split at found
    · cases found
    · rename_i some
      obtain ⟨rfl, rfl⟩ := Prod.mk.inj (Option.some.inj found)
      exact whole ▸ .bare (by simpa using some) all ends

theorem wordBehind?_eq_some_iff (braces : inside '{' = false ∧ inside '}' = false) :
    wordBehind? inside text = some (word, rest) ↔ Refers inside text word rest :=
  ⟨refers_of_wordBehind?, wordBehind?_of_refers braces⟩

/-- Two sets of characters find the same word where they agree on the text. -/
theorem wordBehind?_congr {other : Char → Bool} (braces : inside '{' = false ∧ inside '}' = false)
    (braces' : other '{' = false ∧ other '}' = false) (same : ∀ c ∈ text, inside c = other c) :
    wordBehind? inside text = wordBehind? other text := by
  apply Option.ext
  rintro ⟨word, rest⟩
  rw [wordBehind?_eq_some_iff braces, wordBehind?_eq_some_iff braces']
  exact ⟨.congr same, .congr fun c member => (same c member).symm⟩

theorem reference?_eq_some_iff :
    reference? text = some (word, rest) ↔ Refers Text.isWord text word rest := by
  rw [reference?_eq, wordBehind?_eq_some_iff (by decide)]

end

/-! ### Pieces -/

theorem piecesFrom_eq {text : List Char} {fuel : Nat} (enough : text.length ≤ fuel) :
    piecesFrom fuel text = pieces text := by
  -- any two amounts of fuel that are enough cut alike, by induction on the smaller one
  have alike : ∀ (one other : Nat) (text : List Char), text.length ≤ one → text.length ≤ other →
      piecesFrom one text = piecesFrom other text := by
    intro one
    induction one with
    | zero =>
      intro other text short _
      obtain rfl := List.eq_nil_of_length_eq_zero (Nat.le_zero.mp short)
      cases other <;> rfl
    | succ one ih =>
      intro other text short short'
      cases text with
      | nil => cases other <;> rfl
      | cons c rest =>
        obtain ⟨other, rfl⟩ := Nat.exists_eq_succ_of_ne_zero (Nat.ne_zero_of_lt short')
        have left := Nat.le_of_succ_le_succ short
        have left' := Nat.le_of_succ_le_succ short'
        by_cases dollar : c = '$'
        · subst dollar
          rw [piecesFrom, piecesFrom]
          split
          · rename_i word rest' found
            have shorter := (reference?_eq_some_iff.mp found).length_lt
            rw [ih other rest' (by omega) (by omega)]
          · rw [ih other rest left left']
        · rw [piecesFrom, piecesFrom, ih other rest left left']
          · exact dollar
          · exact dollar
  exact alike _ _ _ enough (Nat.le_refl _)

theorem pieces_plain {c : Char} (other : c ≠ '$') (rest : List Char) :
    pieces (c :: rest) = .literal c :: pieces rest := by
  rw [pieces, List.length_cons, piecesFrom, piecesFrom_eq (Nat.le_refl _)]
  exact other

theorem pieces_reference {text word rest : List Char} (refers : Refers Text.isWord text word rest) :
    pieces ('$' :: text) = .reference word :: pieces rest := by
  rw [pieces, List.length_cons, piecesFrom, reference?_eq_some_iff.mpr refers]
  simp only [piecesFrom_eq refers.length_lt.le]

theorem pieces_dollar {text : List Char} (malformed : reference? text = none) :
    pieces ('$' :: text) = .literal '$' :: pieces text := by
  rw [pieces, List.length_cons, piecesFrom, malformed]
  simp only [piecesFrom_eq (Nat.le_refl _)]

/-- A replacement text begins with a character other than a dollar sign, with a reference, or with a
dollar sign that stands for itself. -/
@[elab_as_elim]
theorem templateInduction {motive : List Char → Prop} (nil : motive [])
    (plain : ∀ c rest, c ≠ '$' → motive rest → motive (c :: rest))
    (reference : ∀ text word rest, Refers Text.isWord text word rest → motive rest → motive ('$' :: text))
    (dollar : ∀ text, reference? text = none → motive text → motive ('$' :: text))
    (template : List Char) : motive template := by
  induction hn : template.length using Nat.strong_induction_on generalizing template with
  | h n ih =>
    subst hn
    cases template with
    | nil => exact nil
    | cons c rest =>
      by_cases isDollar : c = '$'
      · subst isDollar
        cases found : reference? rest with
        | none => exact dollar rest found (ih _ (by simp) rest rfl)
        | some reading =>
          have refers := reference?_eq_some_iff.mp found
          have shorter := refers.length_lt
          exact reference rest reading.1 reading.2 refers (ih _ (by simp; omega) reading.2 rfl)
      · exact plain c rest isDollar (ih _ (by simp) rest rfl)

theorem fill_literals (m : Match) (text : List Char) (more : List Piece) :
    fill m (text.map .literal ++ more) = (fill m more).map (text ++ ·) := by
  induction text with
  | nil =>
    change fill m more = (fill m more).map ([] ++ ·)
    cases fill m more <;> rfl
  | cons char text ih =>
    rw [List.map_cons, List.cons_append, fill, ih]
    cases fill m more <;> rfl

/-- A text without a dollar sign is cut into its characters. -/
theorem pieces_append_of_plain {text : List Char} (plain : '$' ∉ text) (rest : List Char) :
    pieces (text ++ rest) = text.map .literal ++ pieces rest := by
  induction text with
  | nil => rfl
  | cons c text ih =>
    obtain ⟨other, others⟩ := not_or.mp (mt List.mem_cons.mpr plain)
    rw [List.cons_append, pieces_plain (Ne.symm other), ih others]
    rfl

/-- The words of a template are made of its characters. -/
theorem mem_of_reference {template word : List Char} (referred : .reference word ∈ pieces template) :
    ∀ c ∈ word, c ∈ template := by
  induction template using templateInduction with
  | nil => cases referred
  | plain c rest other ih =>
    rw [pieces_plain other] at referred
    have later : .reference word ∈ pieces rest := by simpa using referred
    exact fun d member => List.mem_cons_of_mem c (ih later d member)
  | reference text first rest refers ih =>
    rw [pieces_reference refers] at referred
    rcases List.mem_cons.mp referred with same | later
    · cases same
      exact fun c member => List.mem_cons_of_mem _ (refers.mem_of_mem c member)
    · exact fun c member => List.mem_cons_of_mem _ (refers.suffix.subset (ih later c member))
  | dollar text malformed ih =>
    rw [pieces_dollar malformed] at referred
    have later : .reference word ∈ pieces text := by simpa using referred
    exact fun d member => List.mem_cons_of_mem _ (ih later d member)

def Piece.word? : Piece → Option (List Char)
  | literal _ => none
  | reference word => some word

/-- The words that a template refers to. -/
def words (template : List Char) : List (List Char) := (pieces template).filterMap Piece.word?

theorem mem_words {template word : List Char} (member : .reference word ∈ pieces template) :
    word ∈ words template :=
  List.mem_filterMap.mpr ⟨_, member, rfl⟩

/-! ### The texts of groups -/

/-- The number of the group that a word refers to, if it refers to any: a word of digits is such a
number, and any other word is the name of a group. -/
def wordIndex? (m : Match) (word : List Char) : Option Nat :=
  if word.all Text.isDigit then some (Numeral.natural (Numeral.plainDigits word))
  else m.regex.names.lookup word

/-- The text of a group, if there is such a group and it has taken part in the match. -/
def groupText? (m : Match) (index : Nat) : Option (List Char) :=
  if index = 0 then some m.whole else m.captures.lookup index

/-- What a word stands for: nothing, if there is no such group or it has not taken part. -/
def wordText (m : Match) (word : List Char) : List Char :=
  ((wordIndex? m word).bind (groupText? m)).getD []

theorem numbered_eq (m : Match) (index : Nat) : m.numbered index = (groupText? m index).getD [] := by
  rw [Match.numbered, groupText?]
  split <;> rfl

theorem resolve_eq_of_ok {m : Match} {word text : List Char} (resolved : resolve m word = .ok text) :
    text = wordText m word := by
  rw [resolve] at resolved
  split at resolved
  · rename_i digits
    rw [groupNumber] at resolved
    split at resolved
    · cases resolved
    · split at resolved
      · cases resolved
      · rw [wordText, wordIndex?, if_pos digits, ← Except.ok.inj resolved, numbered_eq]
        rfl
  · rename_i digits
    rw [wordText, wordIndex?, if_neg digits, ← Except.ok.inj resolved, Match.named]
    cases m.regex.names.lookup word with
    | none => rfl
    | some index => exact numbered_eq m index

/-! ### Templates that fail -/

/-- Why a word cannot be resolved. -/
def wordFault? (word : List Char) : Option BadNumber :=
  if word.all Text.isDigit then
    match groupNumber word with
    | .error bad => some bad
    | .ok _ => none
  else none

/-- The first word that cannot be resolved, and why. -/
def fault? : List Piece → Option BadNumber
  | [] => none
  | .literal _ :: rest => fault? rest
  | .reference word :: rest => (wordFault? word).or (fault? rest)

theorem resolve_eq_error_iff (m : Match) (word : List Char) (bad : BadNumber) :
    resolve m word = .error bad ↔ wordFault? word = some bad := by
  rw [resolve, wordFault?]
  split
  · cases groupNumber word with
    | error other => simp [Except.map]
    | ok index => simp [Except.map]
  · simp

theorem fill_eq_error_iff (m : Match) (parts : List Piece) (bad : BadNumber) :
    fill m parts = .error bad ↔ fault? parts = some bad := by
  induction parts with
  | nil => simp [fill, fault?]
  | cons piece rest ih =>
    cases piece with
    | literal char =>
      rw [fill, fault?, ← ih]
      cases fill m rest <;> simp [Except.map]
    | reference word =>
      rw [fill, fault?]
      cases resolved : resolve m word with
      | error other =>
        have found := (resolve_eq_error_iff m word other).mp resolved
        simp [found]
      | ok text =>
        have sound : wordFault? word = none := by
          rw [Option.eq_none_iff_forall_ne_some]
          intro other found
          rw [(resolve_eq_error_iff m word other).mpr found] at resolved
          cases resolved
        rw [sound, Option.none_or, ← ih]
        cases fill m rest <;> simp [Except.map]

/-! ### Segments -/

/-- A part of a replacement text: characters that stand for themselves, or a reference. -/
inductive Segment where
  | literal (text : List Char)
  | braced (word : List Char)
  | bare (word : List Char)

namespace Segment

def written : Segment → List Char
  | literal text => text
  | braced word => '$' :: '{' :: (word ++ ['}'])
  | bare word => '$' :: word

def text (m : Match) : Segment → List Char
  | literal text => text
  | braced word => wordText m word
  | bare word => wordText m word

/-- The segment can be told from what is written behind it, and its word can be looked up. -/
def Stands (m : Match) (behind : List Char) : Segment → Prop
  | literal text => '$' ∉ text
  | braced word => word ≠ [] ∧ (∀ c ∈ word, Text.isWord c) ∧ ∃ text, resolve m word = .ok text
  | bare word => word ≠ [] ∧ (∀ c ∈ word, Text.isWord c) ∧ (∃ text, resolve m word = .ok text) ∧
      ∀ c, behind.head? = some c → Text.isWord c = false

end Segment

theorem expand_literal {text : List Char} (plain : '$' ∉ text) (m : Match) (rest : List Char) :
    expand (text ++ rest) m = (expand rest m).map (text ++ ·) := by
  rw [expand, pieces_append_of_plain plain, fill_literals]
  rfl

@[simp] theorem expand_nil (m : Match) : expand [] m = .ok [] := rfl

theorem expand_character {c : Char} {rest : List Char}
    (cut : pieces (c :: rest) = .literal c :: pieces rest) (m : Match) :
    expand (c :: rest) m = (expand rest m).map (c :: ·) := by
  rw [expand, cut, fill, expand]

theorem expand_reference {m : Match} {after word rest text : List Char}
    (refers : Refers Text.isWord after word rest) (resolved : resolve m word = .ok text) :
    expand ('$' :: after) m = (expand rest m).map (wordText m word ++ ·) := by
  rw [expand, pieces_reference refers, fill, resolved, resolve_eq_of_ok resolved]
  rfl

/-- A segment gives its own text, and the expansion goes on behind it. -/
theorem Segment.expand_written {m : Match} {segment : Segment} {behind : List Char}
    (stands : segment.Stands m behind) :
    expand (segment.written ++ behind) m = (expand behind m).map (segment.text m ++ ·) := by
  cases segment with
  | literal text => exact expand_literal stands m behind
  | braced word =>
    obtain ⟨some, inside, text, resolved⟩ := stands
    have split : (braced word).written ++ behind = '$' :: '{' :: (word ++ '}' :: behind) := by
      simp [written]
    rw [split]
    exact expand_reference (.braced some inside) resolved
  | bare word =>
    obtain ⟨some, inside, ⟨text, resolved⟩, ends⟩ := stands
    exact expand_reference (.bare some inside ends) resolved

/-- Each segment stands before what is written of the later ones. -/
def Separate (m : Match) : List Segment → Prop
  | [] => True
  | segment :: rest => segment.Stands m (rest.flatMap Segment.written) ∧ Separate m rest

/-- A template is expanded in one pass: a literal gives itself and a reference the text of its group,
which is not looked at again, whatever it holds. -/
theorem expand_segments (m : Match) {segments : List Segment} (separate : Separate m segments) :
    expand (segments.flatMap Segment.written) m = .ok (segments.flatMap (Segment.text m)) := by
  induction segments with
  | nil => rfl
  | cons segment rest ih =>
    obtain ⟨stands, others⟩ := separate
    rw [List.flatMap_cons, Segment.expand_written stands, ih others]
    rfl

/-- The pattern `(?P<pod>.*)`, matched with a text that looks like references. -/
def dollars : Match :=
  ⟨⟨.ofList [.group 1 (.loop 0 none true (.one .allButNewline))], 1, [("pod".toList, 1)]⟩,
    "$1$\x7b1\x7d".toList, [], [(1, "$1$\x7b1\x7d".toList)]⟩

/-- References between literals that could be taken for parts of them. -/
def crowded : List Segment :=
  [.literal "/pods/".toList, .braced "pod".toList, .literal "1:".toList, .bare "1".toList,
    .literal "\x7b".toList, .bare "9".toList]

theorem separate_crowded : Separate dollars crowded := by
  have named : (Segment.braced "pod".toList).Stands dollars "1:$1\x7b$9".toList :=
    ⟨by decide, List.all_eq_true.mp (by decide), _, rfl⟩
  have first : (Segment.bare "1".toList).Stands dollars "\x7b$9".toList := by
    refine ⟨by decide, List.all_eq_true.mp (by decide), ⟨_, rfl⟩, ?_⟩
    rintro c ⟨⟩
    decide
  have ninth : (Segment.bare "9".toList).Stands dollars [] :=
    ⟨by decide, List.all_eq_true.mp (by decide), ⟨_, rfl⟩, nofun⟩
  have path : '$' ∉ "/pods/".toList := by decide
  have colon : '$' ∉ "1:".toList := by decide
  have brace : '$' ∉ "\x7b".toList := by decide
  exact ⟨path, named, colon, first, brace, ninth, trivial⟩

theorem expand_segments_crowded :
    (Regex.compile "(?P<pod>.*)".toList).toOption.bind (fun pattern =>
        (pattern.matchStart dollars.whole).map fun m => (m.regex.names, m.captures, m.whole)) =
      some (dollars.regex.names, dollars.captures, dollars.whole) ∧
    Separate dollars crowded ∧
    crowded.flatMap Segment.written = "/pods/$\x7bpod\x7d1:$1\x7b$9".toList ∧
    expand "/pods/$\x7bpod\x7d1:$1\x7b$9".toList dollars =
      .ok "/pods/$1$\x7b1\x7d1:$1$\x7b1\x7d\x7b".toList :=
  ⟨by decide +kernel, separate_crowded, rfl, expand_segments dollars separate_crowded⟩

end Upkeep.Relabel
