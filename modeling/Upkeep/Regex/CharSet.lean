import Upkeep.Text.Blank
import Upkeep.Text.CaseFold
import Upkeep.Text.Digit
import Upkeep.Text.UpperCase
import Upkeep.Text.Word

/-!
Sets of characters in patterns. A set is a list of code points, ranges and classes, or its
complement. Where case is ignored, the set is asked for the lower case of a character, and a code
point or a range stands for every character that differs from one of its own in case only. A set
without any letter that has two cases is asked for the character itself. Beyond U+FFFF case counts
for less: in a set of several parts a code point there stands for itself alone.
-/
namespace Upkeep.Regex

/-- How characters are compared. -/
inductive Fold where
  | exact
  | ascii
  | unicode
  deriving DecidableEq

inductive Category where
  | digit
  | space
  | word
  deriving DecidableEq

/-- A part of a set. The ASCII variant of a class leaves out all other characters. -/
inductive SetItem where
  | letter (code : Nat)
  | span (first last : Nat)
  | kind (category : Category) (ascii : Bool) (positive : Bool)
  deriving DecidableEq

structure CharSet where
  negated : Bool
  items : List SetItem
  fold : Fold
  deriving DecidableEq

def Category.contains (category : Category) (code : Nat) : Bool :=
  match category with
  | .digit => (Text.decimalValueIn Text.decimalRanges code).isSome
  | .space => Text.blankRanges.contains code
  | .word => Text.wordRanges.contains code

namespace Fold

def isAsciiCapital (code : Nat) : Bool := 0x41 ≤ code && code ≤ 0x5A

def isAsciiSmall (code : Nat) : Bool := 0x61 ≤ code && code ≤ 0x7A

/-- The form in which characters are compared. -/
def lower : Fold → Nat → Nat
  | .exact, code => code
  | .ascii, code => if isAsciiCapital code then code + 32 else code
  | .unicode, code => Text.lowerCode code

/-- Whether some character of a range has two cases. -/
def varies : Fold → Nat → Nat → Bool
  | .exact, _, _ => false
  | .ascii, first, last => (first ≤ 0x5A && 0x41 ≤ last) || (first ≤ 0x7A && 0x61 ≤ last)
  | .unicode, first, last => Text.variableCaseRanges.meets first last

/-- Other lower-case letters that count as the same letter. -/
def otherForms : Fold → Nat → List Nat
  | .unicode, code => Text.otherForms code
  | _, _ => []

/-- The characters whose lower case is this one, itself apart. -/
def capitals : Fold → Nat → List Nat
  | .exact, _ => []
  | .ascii, code => if isAsciiSmall code then [code - 32] else []
  | .unicode, code => Text.capitals code

end Fold

namespace SetItem

/-- Whether the part makes the set look at lower case. Beyond U+FFFF every character does. -/
def varies (fold : Fold) : SetItem → Bool
  | .letter code => fold.varies code code || (fold ≠ .exact && 0xFFFF < code)
  | .span first last => fold.varies first last || (fold ≠ .exact && 0xFFFF < last)
  | .kind _ _ _ => false

/-- Membership of a character as it stands. -/
def contains (code : Nat) : SetItem → Bool
  | .letter c => code == c
  | .span first last => first ≤ code && code ≤ last
  | .kind category ascii positive =>
    (category.contains code && (!ascii || code < 0x80)) == positive

/-- Whether a range holds a character that differs from the given one, which is in lower case, in
case only. -/
def spanHolds (fold : Fold) (first last lowered : Nat) : Bool :=
  (lowered :: fold.otherForms lowered).any fun form =>
    (form :: fold.capitals form).any fun code => first ≤ code && code ≤ last

/-- Membership of a character given in lower case, without regard to case. A single code point
beyond U+FFFF in a set of several parts is compared as it stands, and a range that goes beyond holds
a character also if it holds its upper case. -/
def containsFolded (fold : Fold) (lowered : Nat) : SetItem → Bool
  | .letter c =>
    let small := fold.lower c
    if small ≤ 0xFFFF then lowered == small || (fold.otherForms small).contains lowered
    else lowered == c
  | .span first last =>
    spanHolds fold first last lowered ||
      (0xFFFF < last && contains (Text.upperCode lowered) (.span first last))
  | .kind category ascii positive => contains lowered (.kind category ascii positive)

end SetItem

namespace CharSet

/-- One character, compared exactly unless it has two cases. -/
def containsLetter (fold : Fold) (letter code : Nat) : Bool :=
  if fold.varies letter letter then
    let small := fold.lower letter
    fold.lower code == small || (fold.otherForms small).contains (fold.lower code)
  else code == letter

/-- Membership, before the complement is taken. -/
def lists (set : CharSet) (code : Nat) : Bool :=
  match set.items with
  | [.letter letter] => containsLetter set.fold letter code
  | items =>
    if items.any (·.varies set.fold) then
      items.any (·.containsFolded set.fold (set.fold.lower code))
    else items.any (·.contains code)

def contains (set : CharSet) (c : Char) : Bool := set.lists c.toNat != set.negated

/-- The union of sets that are no complements, each part once. -/
def union (first : CharSet) (rest : List CharSet) : CharSet :=
  { first with items := (first.items ++ rest.flatMap CharSet.items).eraseDups }

/-- The set of one character. -/
def only (fold : Fold) (code : Nat) : CharSet := ⟨false, [.letter code], fold⟩

/-- Every character. -/
def all : CharSet := ⟨true, [], .exact⟩

/-- Every character but a newline. -/
def allButNewline : CharSet := ⟨true, [.letter 10], .exact⟩

end CharSet
end Upkeep.Regex
