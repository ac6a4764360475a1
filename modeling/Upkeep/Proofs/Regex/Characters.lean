import Upkeep.Proofs.Regex.Expression
import Upkeep.Proofs.Regex.Sequence

/-! Reading characters and sets. What the reader makes of a character does not depend on what stands
behind it. -/
namespace Upkeep.Regex

theorem takePlain_append {p : Char → Bool} {cs : List Char} (all : ∀ c ∈ cs, p c) (limit : Nat)
    (rest : List Token) : takePlain p (cs.length + limit) (cs.map .plain ++ rest) =
      (cs ++ (takePlain p limit rest).1, (takePlain p limit rest).2) := by
  induction cs with
  | nil => simp
  | cons c cs ih =>
    obtain ⟨here, others⟩ := List.forall_mem_cons.mp all
    have length : cs.length + 1 + limit = (cs.length + limit) + 1 := by omega
    simp [length, takePlain, here, ih others]

/-- As many characters as are wanted. -/
theorem takePlain_full {p : Char → Bool} {cs : List Char} (all : ∀ c ∈ cs, p c)
    (rest : List Token) : takePlain p cs.length (cs.map .plain ++ rest) = (cs, rest) := by
  simpa [takePlain] using takePlain_append all 0 rest

theorem nameUntil?_append {ending : Char} {name : List Char} (closed : ending ∉ name)
    (rest : List Token) :
    nameUntil? ending (name.map .plain ++ .plain ending :: rest) = some (name, rest) := by
  induction name with
  | nil => simp [nameUntil?]
  | cons c name ih =>
    simp only [List.mem_cons, not_or] at closed
    have other : c ≠ ending := fun same => closed.1 same.symm
    simp [nameUntil?, other, ih closed.2]

/-! ### Escapes -/

/-- Inside and outside of a set alike, an escape stands for a character. -/
def EscapesTo (c : Char) (ts : List Token) (code : Nat) (rest : List Token) : Prop :=
  escape? false c ts = some (.item (.letter code), rest) ∧
    setEscape? false c ts = some (.letter code, rest)

theorem digit_of_octal {c : Char} (octal : isOctalDigit c) :
    isAsciiDigit c ∧ isAsciiLetter c = false := by
  simp [isOctalDigit, isAsciiDigit, isAsciiLetter, Char.le_def, UInt32.le_iff_toNat_le] at *
  omega

/-- All classes, control characters and code points are escaped by letters. -/
theorem unknown_of_sign {c : Char} (sign : isAsciiLetter c = false) :
    category? false c = none ∧ control? c = none ∧ (∀ rest, coded? c rest = none) ∧ c ≠ 'b' := by
  refine ⟨?_, ?_, fun rest => ?_, ?_⟩
  · unfold category?
    split <;> first | rfl | exact absurd sign (by decide)
  · unfold control?
    split <;> first | rfl | exact absurd sign (by decide)
  · unfold coded?
    split <;> first | rfl | exact absurd sign (by decide)
  · rintro rfl
    exact absurd sign (by decide)

theorem escapesTo_sign {c : Char} (letter : isAsciiLetter c = false)
    (digit : isAsciiDigit c = false) (rest : List Token) : EscapesTo c rest c.toNat rest := by
  obtain ⟨category, control, coded, backspace⟩ := unknown_of_sign letter
  have octal : isOctalDigit c = false := by
    rw [Bool.eq_false_iff]
    exact fun octal => absurd (digit_of_octal octal).1 (Bool.eq_false_iff.mp digit)
  constructor
  · unfold escape?
    split
    all_goals try first | exact absurd letter (by decide) | exact absurd digit (by decide)
    simp [category, control, coded, letter, digit]
  · simp [setEscape?, category, control, coded, backspace, octal, letter, digit]

theorem escapesTo_control {c : Char} {code : Nat} (known : (c, code) ∈ controls)
    (rest : List Token) : EscapesTo c rest code rest := by
  simp only [controls, List.mem_cons, Prod.mk.injEq, List.not_mem_nil, or_false] at known
  rcases known with ⟨rfl, rfl⟩ | ⟨rfl, rfl⟩ | ⟨rfl, rfl⟩ | ⟨rfl, rfl⟩ | ⟨rfl, rfl⟩ | ⟨rfl, rfl⟩ <;>
    exact ⟨rfl, rfl⟩

theorem escapesTo_coded {c : Char} {digits : List Char} (known : (c, digits.length) ∈ codeWidths)
    (hex : ∀ d ∈ digits, isHexDigit d) (small : digitsValue 16 digits ≤ 0x10FFFF)
    (rest : List Token) : EscapesTo c (digits.map .plain ++ rest) (digitsValue 16 digits) rest := by
  have read : hexCode? digits.length (digits.map .plain ++ rest) =
      some (digitsValue 16 digits, rest) := by
    simp [hexCode?, takePlain_full hex, small]
  simp only [codeWidths, List.mem_cons, Prod.mk.injEq, List.not_mem_nil, or_false] at known
  rcases known with ⟨rfl, width⟩ | ⟨rfl, width⟩ | ⟨rfl, width⟩ <;> rw [width] at read <;>
    simp [EscapesTo, escape?, setEscape?, category?, control?, coded?, read]

theorem escapesTo_named {name : List Char} (closed : '}' ∉ name) {code : Nat}
    (known : Text.namedCode? name = some code) (rest : List Token) :
    EscapesTo 'N' (.plain '{' :: (name.map .plain ++ .plain '}' :: rest)) code rest := by
  simp [EscapesTo, escape?, setEscape?, category?, control?, coded?, namedCode?,
    nameUntil?_append closed, known]

theorem escapesTo_octal {first second third : Char}
    (digits : ∀ d ∈ [first, second, third], isOctalDigit d)
    (small : digitsValue 8 [first, second, third] ≤ 0o377) (rest : List Token) :
    EscapesTo first (.plain second :: .plain third :: rest)
      (digitsValue 8 [first, second, third]) rest := by
  obtain ⟨one, two, three⟩ : isOctalDigit first ∧ isOctalDigit second ∧ isOctalDigit third := by
    simpa using digits
  obtain ⟨digit, letter⟩ := digit_of_octal one
  obtain ⟨category, control, coded, backspace⟩ := unknown_of_sign letter
  have two' := (digit_of_octal two).1
  constructor
  · unfold escape?
    split
    all_goals try exact absurd letter (by decide)
    -- three digits are a code point, whether or not the first of them is 0
    · simp [takePlain, two, three, digitsValue, Text.hexValue?]
    · simp [category, control, coded, digit, numberEscape?, takePlain, one, two, three, two', small]
  · simp [setEscape?, category, control, coded, backspace, takePlain, one, two, three, small]

namespace Letter
variable {reserved : List Char}

/-- A character stands for itself, or is an escape that is no class, no place and no group. -/
theorem written (char : Letter reserved) :
    (∃ c, char.tokens = [.plain c] ∧ char.code = c.toNat ∧ c ∉ '\\' :: reserved) ∨
    ∃ c more, char.tokens = .escaped c :: more ∧
      ∀ rest, EscapesTo c (more ++ rest) char.code rest := by
  cases char with
  | plain c free => exact .inl ⟨c, rfl, rfl, free⟩
  | escaped c sign => exact .inr ⟨c, [], rfl, escapesTo_sign sign.1 sign.2⟩
  | control c code known => exact .inr ⟨c, [], rfl, escapesTo_control known⟩
  | coded c digits long hex small => exact .inr ⟨c, _, rfl, escapesTo_coded long hex small⟩
  | octal first second third digits small =>
    exact .inr ⟨first, _, rfl, escapesTo_octal digits small⟩
  | named name value closed known =>
    refine .inr ⟨'N', _, rfl, fun rest => ?_⟩
    simpa [Letter.code] using escapesTo_named (fun member => (closed _ member).1 rfl) known rest

/-- A first token that is plain is the character itself. -/
theorem free_of_head {char : Letter reserved} {c : Char} {rest : List Token}
    (first : (char.tokens ++ rest).head? = some (.plain c)) : c ∉ '\\' :: reserved := by
  rcases char.written with ⟨own, tokens, -, free⟩ | ⟨own, more, tokens, -⟩
  · rw [tokens] at first
    obtain rfl : own = c := by simpa using first
    exact free
  · simp [tokens] at first

theorem setMember?_eq (char : Letter reserved) (rest : List Token) :
    setMember? false (char.tokens ++ rest) = some (.letter char.code, rest) := by
  rcases char.written with ⟨own, tokens, code, -⟩ | ⟨own, more, tokens, read⟩
  · simp [tokens, code, setMember?]
  · simp [tokens, setMember?, (read rest).2]

end Letter

/-! ### Sets -/

/-- The set goes on: a closing bracket is a member if it comes first. -/
def Unclosed (items : List SetItem) (ts : List Token) : Prop :=
  ∀ (item : SetItem) (others : List SetItem) (rest : List Token),
    items = item :: others → ts = .plain ']' :: rest → False

/-- A hyphen comes last if it comes next. -/
def HyphenLast (ts : List Token) : Prop :=
  ∀ others, ts = .plain '-' :: others → ∃ rest, others = .plain ']' :: rest

theorem unclosed_of_head {items : List SetItem} {ts : List Token}
    (other : ts.head? ≠ some (.plain ']')) : Unclosed items ts := by
  rintro _ _ _ - rfl
  exact other rfl

section
variable {ascii : Bool} {fuel : Nat} {items : List SetItem} {ts rest : List Token}

theorem setMembers?_single {item : SetItem} (unclosed : Unclosed items ts)
    (read : setMember? ascii ts = some (item, rest)) (single : rest.head? ≠ some (.plain '-')) :
    setMembers? ascii (fuel + 1) items ts = setMembers? ascii fuel (item :: items) rest := by
  rw [setMembers?, read]
  · split <;> simp_all
  · exact unclosed

theorem setMembers?_range {low high : Nat} {others : List Token} (unclosed : Unclosed items ts)
    (first : setMember? ascii ts = some (.letter low, .plain '-' :: others))
    (inner : others.head? ≠ some (.plain ']'))
    (last : setMember? ascii others = some (.letter high, rest)) (ordered : low ≤ high) :
    setMembers? ascii (fuel + 1) items ts =
      setMembers? ascii fuel (.span low high :: items) rest := by
  rw [setMembers?, first]
  · split
    · contradiction
    · rename_i same
      cases same
      simp at inner
    · rename_i same
      cases same
      simp only [last, if_pos ordered]
    · rename_i unlike same
      cases same
      exact absurd rfl (unlike others)
  · exact unclosed

theorem setMembers?_last {item : SetItem} (unclosed : Unclosed items ts)
    (read : setMember? ascii ts = some (item, .plain '-' :: .plain ']' :: rest)) :
    setMembers? ascii (fuel + 1) items ts = some ((.letter 45 :: item :: items).reverse, rest) := by
  rw [setMembers?, read]
  · rfl
  · exact unclosed

theorem setMembers?_end (nonempty : items ≠ []) :
    setMembers? ascii (fuel + 1) items (.plain ']' :: rest) = some (items.reverse, rest) := by
  obtain ⟨item, others, rfl⟩ := List.exists_cons_of_ne_nil nonempty
  rfl

theorem setMembers?_hyphen : setMembers? false (fuel + 2) items (.plain '-' :: .plain ']' :: rest) =
    some ((.letter 45 :: items).reverse, rest) := by
  rw [setMembers?_single (unclosed_of_head (by simp)) rfl (by simp)]
  exact setMembers?_end (List.cons_ne_nil _ _)

theorem setMembers?_item {item : SetItem} (unclosed : Unclosed items ts)
    (read : setMember? false ts = some (item, rest)) (last : HyphenLast rest) :
    setMembers? false (fuel + 3) items ts = setMembers? false (fuel + 2) (item :: items) rest := by
  by_cases hyphen : rest.head? = some (.plain '-')
  · obtain ⟨others, rfl⟩ := List.head?_eq_some_iff.mp hyphen
    obtain ⟨left, rfl⟩ := last others rfl
    rw [setMembers?_last unclosed read, setMembers?_hyphen]
  · exact setMembers?_single unclosed read hyphen

end

theorem contains_letter (char expected : Char) :
    SetItem.contains char.toNat (.letter expected.toNat) = (char == expected) := by
  rw [Bool.eq_iff_iff]
  simp [SetItem.contains, Char.toNat_inj]

namespace Member
variable {reserved : List Char}

def item : Member reserved → SetItem
  | letter char => .letter char.code
  | backspace => .letter 8
  | range low high _ => .span low.code high.code
  | kind category positive => .kind category false positive

theorem contains_item (m : Member reserved) (char : Char) :
    m.item.contains char.toNat = m.holds char := by
  cases m with
  | backspace => exact contains_letter char '\x08'
  | _ => simp [item, holds, SetItem.contains]

theorem free_of_head {m : Member reserved} {c : Char} {rest : List Token}
    (first : (m.tokens ++ rest).head? = some (.plain c)) : c ∉ '\\' :: reserved := by
  cases m with
  | letter char => exact char.free_of_head first
  | range low high ordered =>
    rw [tokens, List.append_assoc] at first
    exact low.free_of_head first
  | _ => simp [tokens] at first

theorem tokens_ne_nil (m : Member reserved) : m.tokens ≠ [] := by
  cases m with
  | letter char => cases char <;> simp [tokens, Letter.tokens]
  | _ => simp [tokens]

theorem category?_kindLetter (category : Category) (positive : Bool) :
    category? false (kindLetter category positive) = some (.kind category false positive) := by
  cases category <;> cases positive <;> rfl

theorem setMembers?_eq (m : Member reserved) {fuel : Nat} {items : List SetItem} {rest : List Token}
    (front : items = [] ∨ ']' ∈ reserved) (last : HyphenLast rest) :
    setMembers? false (fuel + 3) items (m.tokens ++ rest) =
      setMembers? false (fuel + 2) (m.item :: items) rest := by
  have unclosed : Unclosed items (m.tokens ++ rest) := by
    rcases front with rfl | inside
    · rintro _ _ _ ⟨⟩
    · exact unclosed_of_head fun first => m.free_of_head first (List.mem_cons_of_mem _ inside)
  cases m with
  | letter char => exact setMembers?_item unclosed (char.setMember?_eq rest) last
  | backspace => exact setMembers?_item unclosed rfl last
  | kind category positive =>
    refine setMembers?_item unclosed ?_ last
    simp [tokens, setMember?, setEscape?, category?_kindLetter, item]
  | range low high ordered =>
    simp only [tokens, List.append_assoc, List.cons_append] at unclosed ⊢
    refine setMembers?_range unclosed (low.setMember?_eq _) ?_ (high.setMember?_eq rest) ordered
    exact fun first => high.free_of_head first (by simp)

end Member

namespace CharClass

def items (set : CharClass) : List SetItem :=
  set.first.item :: (set.others.map Member.item ++ if set.hyphen then [.letter 45] else [])

theorem setMembers?_ending (set : CharClass) {fuel : Nat} {items : List SetItem}
    {rest : List Token} (nonempty : items ≠ []) :
    setMembers? false (fuel + 2) items (set.ending ++ rest) =
      some (items.reverse ++ if set.hyphen then [.letter 45] else [], rest) := by
  unfold ending
  cases set.hyphen with
  | true => simpa using setMembers?_hyphen
  | false => simpa using setMembers?_end nonempty

theorem hyphenLast (set : CharClass) (members : List (Member [']', '-'])) (rest : List Token) :
    HyphenLast (members.flatMap Member.tokens ++ (set.ending ++ rest)) := by
  intro others first
  cases members with
  | nil =>
    cases hyphen : set.hyphen with
    | true =>
      refine ⟨rest, ?_⟩
      simpa [ending, hyphen] using first.symm
    | false => simp [ending, hyphen] at first
  | cons m members =>
    rw [List.flatMap_cons, List.append_assoc] at first
    exact absurd (by simp) (m.free_of_head (congrArg List.head? first))

theorem setMembers?_others (set : CharClass) (members : List (Member [']', '-'])) {fuel : Nat}
    {items : List SetItem} {rest : List Token} (nonempty : items ≠ [])
    (enough : members.length + 2 ≤ fuel) :
    setMembers? false fuel items (members.flatMap Member.tokens ++ (set.ending ++ rest)) =
      some (items.reverse ++ (members.map Member.item ++ if set.hyphen then [.letter 45] else []),
        rest) := by
  -- on the members; `items` are those that have been read, the last one first
  induction members generalizing fuel items with
  | nil =>
    obtain ⟨fuel, rfl⟩ := Nat.exists_eq_add_of_le' enough
    exact set.setMembers?_ending nonempty
  | cons m members ih =>
    simp only [List.length_cons] at enough
    obtain ⟨fuel, rfl⟩ : ∃ k, fuel = k + 3 := ⟨fuel - 3, by omega⟩
    rw [List.flatMap_cons, List.append_assoc,
      m.setMembers?_eq (.inr (by simp)) (set.hyphenLast members rest),
      ih (List.cons_ne_nil _ _) (by omega)]
    simp

theorem length_le (members : List (Member [']', '-'])) :
    members.length ≤ (members.flatMap Member.tokens).length := by
  induction members with
  | nil => rfl
  | cons m members ih =>
    have positive := List.length_pos_iff.mpr m.tokens_ne_nil
    simp only [List.flatMap_cons, List.length_append, List.length_cons]
    omega

theorem setMembers?_body (set : CharClass) (rest : List Token) :
    setMembers? false ((set.body ++ rest).length + 1) [] (set.body ++ rest) =
      some (set.items, rest) := by
  have first := List.length_pos_iff.mpr set.first.tokens_ne_nil
  have others := length_le set.others
  have ending : 0 < set.ending.length := by
    unfold ending
    split <;> simp
  obtain ⟨fuel, enough⟩ : ∃ k, (set.body ++ rest).length + 1 = k + 3 :=
    ⟨(set.body ++ rest).length - 2, by simp only [body, List.length_append]; omega⟩
  have left : set.others.length + 2 ≤ fuel + 2 := by
    simp only [body, List.length_append] at enough
    omega
  rw [enough, body, List.append_assoc, List.append_assoc,
    set.first.setMembers?_eq (.inl rfl) (set.hyphenLast _ rest),
    set.setMembers?_others _ (List.cons_ne_nil _ _) left]
  rfl

/-- The set behind its opening bracket. -/
theorem charSet?_eq (set : CharClass) (rest : List Token) :
    charSet? .plain ((if set.negated then .plain '^' :: set.body else set.body) ++ rest) =
      some (⟨set.negated, set.items.eraseDups, .exact⟩, rest) := by
  have read := set.setMembers?_body rest
  unfold charSet?
  cases negated : set.negated with
  | true =>
    simp only [if_true, List.cons_append]
    change Option.map _ (setMembers? false _ _ _) = _
    rw [read]
    rfl
  | false =>
    have unlike : ∀ others, set.body ++ rest = .plain '^' :: others → False := by
      intro others same
      have caret := set.caret.resolve_left (by simp [negated])
      obtain ⟨t, more, first⟩ := List.exists_cons_of_ne_nil set.first.tokens_ne_nil
      rw [body, first] at same
      rw [first] at caret
      exact caret (by simpa using (List.cons.inj same).1)
    simp only [Bool.false_eq_true, if_false]
    change Option.map _ (setMembers? false _ _ _) = _
    rw [read]
    rfl

theorem contains_items (set : CharClass) (char : Char) :
    (CharSet.mk set.negated set.items.eraseDups .exact).contains char = set.holds char := by
  have listed : set.items.eraseDups.any (·.contains char.toNat) =
      set.items.any (·.contains char.toNat) := by
    rw [Bool.eq_iff_iff]
    simp
  have last : (if set.hyphen then [SetItem.letter 45] else []).any (·.contains char.toNat) =
      (set.hyphen && char == '-') := by
    cases set.hyphen <;> simp [← contains_letter]
  rw [CharSet.contains_of_exact rfl, listed, holds, items, List.any_cons, List.any_append, last,
    List.any_map, set.first.contains_item]
  simp only [Function.comp_def, Member.contains_item, Bool.or_assoc]

end CharClass
end Upkeep.Regex
