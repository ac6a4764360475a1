import Upkeep.Number.Numeral
import Upkeep.Proofs.Regex.Language
import Upkeep.Regex.Reader

/-! Regular expressions as they are written: characters, sets, groups, brackets, quantifiers that are
greedy or lazy, alternatives. Each has a text and, apart from how it is read, a language. A quantifier
stands behind a single part and is not repeated itself, which is what the levels are for. -/
namespace Upkeep.Regex

/-- The characters of a token. -/
def Token.written : Token → List Char
  | plain c => [c]
  | escaped c => ['\\', c]
  | dangling => ['\\']

/-- A token that is what it is whatever stands behind it. -/
def Token.Stands (t : Token) : Prop := t ≠ .plain '\\' ∧ t ≠ .dangling

theorem tokens_written {ts : List Token} (stand : ∀ t ∈ ts, t.Stands) (tail : List Char) :
    tokens (ts.flatMap Token.written ++ tail) = ts ++ tokens tail := by
  induction ts with
  | nil => rfl
  | cons t ts ih =>
    obtain ⟨here, others⟩ := List.forall_mem_cons.mp stand
    have rest := ih others
    cases t with
    | plain c =>
      have other : c ≠ '\\' := fun same => here.1 (congrArg Token.plain same)
      simp [Token.written, tokens, other, ← rest]
    | escaped c => simp [Token.written, tokens, ← rest]
    | dangling => exact absurd rfl here.2

theorem stands_plain {c : Char} : (Token.plain c).Stands ↔ c ≠ '\\' := by simp [Token.Stands]

@[simp] theorem stands_escaped (c : Char) : (Token.escaped c).Stands := by simp [Token.Stands]

theorem stands_map {cs : List Char} :
    (∀ t ∈ cs.map Token.plain, t.Stands) ↔ ∀ c ∈ cs, c ≠ '\\' := by
  simp [stands_plain]

/-! ### Characters -/

/-- The characters that mean something else unless they are escaped. -/
def metacharacters : List Char := ['.', '[', '{', '(', ')', '*', '+', '?', '^', '$', '|']

/-- Control characters that have an escape of their own. -/
def controls : List (Char × Nat) :=
  [('a', 7), ('f', 12), ('n', 10), ('r', 13), ('t', 9), ('v', 11)]

/-- The escapes by code point, and how many hexadecimal digits each has. -/
def codeWidths : List (Char × Nat) := [('x', 2), ('u', 4), ('U', 8)]

/-- A single character: as it is, unless it is reserved or a backslash; a sign behind a backslash; a
control character; by code point, in hexadecimal or in three octal digits; or by name. -/
inductive Letter (reserved : List Char) where
  | plain (char : Char) (free : char ∉ '\\' :: reserved)
  | escaped (char : Char) (sign : isAsciiLetter char = false ∧ isAsciiDigit char = false)
  | control (letter : Char) (code : Nat) (known : (letter, code) ∈ controls)
  | coded (letter : Char) (digits : List Char) (long : (letter, digits.length) ∈ codeWidths)
      (hex : ∀ d ∈ digits, isHexDigit d) (small : digitsValue 16 digits ≤ 0x10FFFF)
  | octal (first second third : Char) (digits : ∀ d ∈ [first, second, third], isOctalDigit d)
      (small : digitsValue 8 [first, second, third] ≤ 0o377)
  | named (name : List Char) (code : Nat) (closed : ∀ c ∈ name, c ≠ '}' ∧ c ≠ '\\')
      (known : Text.namedCode? name = some code)

namespace Letter
variable {reserved : List Char}

def code : Letter reserved → Nat
  | plain char _ | escaped char _ => char.toNat
  | control _ code _ | named _ code _ _ => code
  | coded _ digits _ _ _ => digitsValue 16 digits
  | octal first second third _ _ => digitsValue 8 [first, second, third]

def tokens : Letter reserved → List Token
  | plain char _ => [.plain char]
  | escaped char _ => [.escaped char]
  | control letter _ _ => [.escaped letter]
  | coded letter digits _ _ _ => .escaped letter :: digits.map .plain
  | octal first second third _ _ => [.escaped first, .plain second, .plain third]
  | named name _ _ _ => .escaped 'N' :: .plain '{' :: (name.map .plain ++ [.plain '}'])

theorem stands (char : Letter reserved) : ∀ t ∈ char.tokens, t.Stands := by
  cases char with
  | plain c free => simpa [tokens, stands_plain] using fun same => free (by simp [same])
  | escaped c sign => simp [tokens]
  | control c code known => simp [tokens]
  | coded c digits long hex small =>
    refine List.forall_mem_cons.mpr ⟨by simp, stands_map.mpr ?_⟩
    rintro _ member rfl
    exact absurd (hex _ member) (by decide)
  | octal first second third digits small =>
    have digit : ∀ d ∈ [first, second, third], d ≠ '\\' := by
      rintro _ member rfl
      exact absurd (digits _ member) (by decide)
    simp_all [tokens, stands_plain]
  | named name code closed known =>
    have inside := stands_map.mpr fun c member => (closed c member).2
    simp_all [tokens, stands_plain, or_imp]

end Letter

/-- The letter of a class of characters; a capital stands for its complement. -/
def kindLetter : Category → (positive : Bool) → Char
  | .digit, true => 'd'
  | .digit, false => 'D'
  | .space, true => 's'
  | .space, false => 'S'
  | .word, true => 'w'
  | .word, false => 'W'

/-! ### Sets -/

/-- A member of a set: a character, a backspace, a range, or a class. A range may end in a hyphen. -/
inductive Member (reserved : List Char) where
  | letter (char : Letter reserved)
  | backspace
  | range (low : Letter reserved) (high : Letter [']']) (ordered : low.code ≤ high.code)
  | kind (category : Category) (positive : Bool)

namespace Member
variable {reserved : List Char}

def holds (char : Char) : Member reserved → Bool
  | letter expected => char.toNat == expected.code
  | backspace => char == '\x08'
  | range low high _ => low.code ≤ char.toNat && char.toNat ≤ high.code
  | kind category positive => category.contains char.toNat == positive

def tokens : Member reserved → List Token
  | letter char => char.tokens
  | backspace => [.escaped 'b']
  | range low high _ => low.tokens ++ .plain '-' :: high.tokens
  | kind category positive => [.escaped (kindLetter category positive)]

theorem stands (m : Member reserved) : ∀ t ∈ m.tokens, t.Stands := by
  cases m with
  | letter char => exact char.stands
  | range low high ordered =>
    exact List.forall_mem_append.mpr
      ⟨low.stands, List.forall_mem_cons.mpr ⟨by simp [stands_plain], high.stands⟩⟩
  | _ => simp [tokens]

end Member

/-- A set in square brackets. A closing bracket or a hyphen stands for itself if it comes first, and a
hyphen also if it comes last; a caret that comes first makes the set a complement. -/
structure CharClass where
  negated : Bool
  first : Member []
  others : List (Member [']', '-'])
  /-- The last member is a hyphen. -/
  hyphen : Bool
  caret : negated = true ∨ first.tokens.head? ≠ some (.plain '^')

namespace CharClass

def holds (set : CharClass) (char : Char) : Bool :=
  (set.first.holds char || set.others.any (·.holds char) || (set.hyphen && char == '-')) !=
    set.negated

/-- What closes the set. -/
def ending (set : CharClass) : List Token :=
  if set.hyphen then [.plain '-', .plain ']'] else [.plain ']']

def body (set : CharClass) : List Token :=
  set.first.tokens ++ (set.others.flatMap Member.tokens ++ set.ending)

def tokens (set : CharClass) : List Token :=
  .plain '[' :: if set.negated then .plain '^' :: set.body else set.body

theorem stands (set : CharClass) : ∀ t ∈ set.tokens, t.Stands := by
  have first := set.first.stands
  have others : ∀ m ∈ set.others, ∀ t ∈ m.tokens, t.Stands := fun m _ => m.stands
  have ending : ∀ t ∈ set.ending, t.Stands := by
    unfold CharClass.ending
    split <;> simp [stands_plain]
  have body : ∀ t ∈ set.body, t.Stands := by
    simp only [CharClass.body, List.mem_append, List.mem_flatMap]
    rintro t (member | ⟨m, inside, member⟩ | member)
    · exact first t member
    · exact others m inside t member
    · exact ending t member
  unfold tokens
  split <;> simp_all [stands_plain]

end CharClass

/-! ### Quantifiers -/

/-- A bound of a quantifier in braces; larger or longer ones are refused. -/
structure Bound where
  digits : List Char
  decimal : ∀ d ∈ digits, isAsciiDigit d
  short : digits.length ≤ Overlong.limit
  small : digitsValue 10 digits < repetitionLimit

def Bound.value (b : Bound) : Nat := digitsValue 10 b.digits

def Bound.tokens (b : Bound) : List Token := b.digits.map .plain

theorem Bound.stands (b : Bound) : ∀ t ∈ b.tokens, t.Stands := by
  refine stands_map.mpr ?_
  rintro _ member rfl
  exact absurd (b.decimal _ member) (by decide)

/-- How often a part occurs. Between two bounds the upper one may be left out, and there is then no
greatest number; the lower one is 0 if it is left out. -/
inductive Times where
  | optional
  | star
  | plus
  | exactly (count : Bound) (given : count.digits ≠ [])
  | between (low high : Bound) (ordered : high.digits = [] ∨ low.value ≤ high.value)

namespace Times

def least : Times → Nat
  | optional | star => 0
  | plus => 1
  | exactly count _ => count.value
  | between low _ _ => low.value

def most : Times → Option Nat
  | optional => some 1
  | star | plus => none
  | exactly count _ => some count.value
  | between _ high _ => if high.digits = [] then none else some high.value

def tokens : Times → List Token
  | optional => [.plain '?']
  | star => [.plain '*']
  | plus => [.plain '+']
  | exactly count _ => .plain '{' :: (count.tokens ++ [.plain '}'])
  | between low high _ =>
    .plain '{' :: (low.tokens ++ .plain ',' :: (high.tokens ++ [.plain '}']))

theorem stands (count : Times) : ∀ t ∈ count.tokens, t.Stands := by
  cases count with
  | exactly b given => simp_all [tokens, stands_plain, b.stands, or_imp]
  | between low high ordered =>
    simp_all [tokens, stands_plain, low.stands, high.stands, or_imp]
  | _ => simp [tokens, stands_plain]

theorem least_le_most (t : Times) : ∀ m ∈ t.most, t.least ≤ m := by
  cases t with
  | between low high ordered =>
    rcases ordered with absent | ordered
    · simp [most, absent]
    · simp only [most, least]
      split
      · simp
      · simpa using ordered
  | _ => simp [most, least]

end Times

/-! ### Expressions -/

theorem ordinary_of_identifier {name : List Char} (valid : Text.isIdentifier name) :
    ∀ c ∈ name, c ≠ '>' ∧ c ≠ '\\' := by
  have continues : ∀ c ∈ name, Text.continuesIdentifier c := by
    cases name with
    | nil => simp
    | cons c rest =>
      simp only [Text.isIdentifier, Bool.and_eq_true, List.all_eq_true] at valid
      rw [List.forall_mem_cons]
      refine ⟨?_, valid.2⟩
      simp [Text.continuesIdentifier, valid.1]
  intro c member
  constructor
  · rintro rfl
    exact absurd (continues _ member) (by decide)
  · rintro rfl
    exact absurd (continues _ member) (by decide)

/-- What an expression may be a part of without brackets. -/
inductive Level where
  /-- What a quantifier repeats. -/
  | atom
  | piece
  | branch
  | choice

inductive Expr : Level → Type where
  | letter (char : Letter metacharacters) : Expr .atom
  | dot : Expr .atom
  | kind (category : Category) (positive : Bool) : Expr .atom
  | charClass (set : CharClass) : Expr .atom
  | group (body : Expr .choice) : Expr .atom
  | named (name : List Char) (valid : Text.isIdentifier name) (body : Expr .choice) : Expr .atom
  /-- Brackets that are no group. -/
  | brackets (body : Expr .choice) : Expr .atom
  | once (atom : Expr .atom) : Expr .piece
  | times (atom : Expr .atom) (count : Times) (greedy : Bool) : Expr .piece
  | nothing : Expr .branch
  | andThen (piece : Expr .piece) (others : Expr .branch) : Expr .branch
  | only (branch : Expr .branch) : Expr .choice
  | orElse (branch : Expr .branch) (others : Expr .choice) : Expr .choice

namespace Expr

def tokens {level : Level} : Expr level → List Token
  | letter char => char.tokens
  | dot => [.plain '.']
  | kind category positive => [.escaped (kindLetter category positive)]
  | charClass set => set.tokens
  | group body => .plain '(' :: (body.tokens ++ [.plain ')'])
  | named name _ body =>
    .plain '(' :: .plain '?' :: .plain 'P' :: .plain '<' ::
      (name.map .plain ++ .plain '>' :: (body.tokens ++ [.plain ')']))
  | brackets body =>
    .plain '(' :: .plain '?' :: .plain ':' :: (body.tokens ++ [.plain ')'])
  | once atom => atom.tokens
  | times atom count greedy =>
    atom.tokens ++ (count.tokens ++ if greedy then [] else [.plain '?'])
  | nothing => []
  | andThen piece others => piece.tokens ++ others.tokens
  | only branch => branch.tokens
  | orElse branch others => branch.tokens ++ .plain '|' :: others.tokens

/-- The expression as it is written. -/
def text {level : Level} (e : Expr level) : List Char := e.tokens.flatMap Token.written

theorem stands {level : Level} (e : Expr level) : ∀ t ∈ e.tokens, t.Stands := by
  induction e with
  | letter char => exact char.stands
  | charClass set => exact set.stands
  | named name valid body ih =>
    have inside := stands_map.mpr fun c member => (ordinary_of_identifier valid c member).2
    simp_all [tokens, stands_plain, or_imp]
  | times atom count greedy ih =>
    have counted := count.stands
    cases greedy <;> simp_all [tokens, stands_plain, or_imp]
  | once atom ih => exact ih
  | only branch ih => exact ih
  | _ => simp_all [tokens, stands_plain, or_imp]

/-- The names of the groups. -/
def names {level : Level} : Expr level → List (List Char)
  | letter _ | dot | kind _ _ | charClass _ | nothing => []
  | named name _ body => name :: body.names
  | group body | brackets body => body.names
  | once atom | times atom _ _ => atom.names
  | andThen piece others => piece.names ++ others.names
  | only branch => branch.names
  | orElse branch others => branch.names ++ others.names

/-- The texts that the expression describes. A dot stands for all characters but a newline, and
whether a quantifier is lazy makes no difference. -/
def language {level : Level} : Expr level → Language Char
  | letter expected => single fun char => char.toNat = expected.code
  | dot => single fun char => char ≠ '\n'
  | kind category positive => single fun char => category.contains char.toNat = positive
  | charClass set => single fun char => set.holds char
  | group body | named _ _ body | brackets body => body.language
  | once atom => atom.language
  | times atom count _ => repeated count.least count.most atom.language
  | nothing => 1
  | andThen piece others => piece.language * others.language
  | only branch => branch.language
  | orElse branch others => branch.language + others.language

end Expr
end Upkeep.Regex
