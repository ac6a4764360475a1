import Upkeep.Number.Numeral
import Upkeep.Regex.Match
import Upkeep.Text.Quoted
import Upkeep.Text.Word

/-!
Replacement texts. A dollar sign and a word, in braces or as long as it goes, refer to a group of a
match: a word of digits by number, any other one by name. All else stands for itself, and the text
that a group puts in is not looked at again.
-/
namespace Upkeep.Relabel

inductive Piece where
  | literal (c : Char)
  | reference (word : List Char)
  deriving DecidableEq

/-- A reference behind a dollar sign and what is left, if there is one. -/
def reference? : List Char → Option (List Char × List Char)
  | '{' :: rest =>
    let word := rest.takeWhile Text.isWord
    match rest.dropWhile Text.isWord with
    | '}' :: rest => if word.isEmpty then none else some (word, rest)
    | _ => none
  | rest =>
    let word := rest.takeWhile Text.isWord
    if word.isEmpty then none else some (word, rest.dropWhile Text.isWord)

/-- Cuts a text into pieces from left to right; the length of the text is fuel enough. -/
def piecesFrom : (fuel : Nat) → List Char → List Piece
  | 0, _ => []
  | _ + 1, [] => []
  | fuel + 1, '$' :: rest =>
    match reference? rest with
    | some (word, rest) => .reference word :: piecesFrom fuel rest
    | none => .literal '$' :: piecesFrom fuel rest
  | fuel + 1, c :: rest => .literal c :: piecesFrom fuel rest

def pieces (template : List Char) : List Piece := piecesFrom template.length template

inductive BadNumber where
  /-- One of the digits is not decimal, such as a superscript. -/
  | notDecimal (word : List Char)
  | overlong (number : Overlong)
  deriving DecidableEq

def BadNumber.message : BadNumber → String
  | notDecimal word =>
    "invalid literal for int() with base 10: " ++ Text.quoted (String.ofList word)
  | overlong number => number.message

/-- Reads a word of digits. The decimal digits in front are counted first. -/
def groupNumber (word : List Char) : Except BadNumber Nat :=
  let decimals := word.takeWhile Text.isDecimal
  if Overlong.limit < decimals.length then .error (.overlong ⟨decimals.length⟩)
  else if decimals.length < word.length then .error (.notDecimal word)
  else .ok (Numeral.natural (Numeral.plainDigits word))

def resolve (m : Regex.Match) (word : List Char) : Except BadNumber (List Char) :=
  if word.all Text.isDigit then (groupNumber word).map m.numbered else .ok (m.named word)

/-- Puts the texts of the groups of a match in place of the references; the first reference that
cannot be read is the error. -/
def fill (m : Regex.Match) : List Piece → Except BadNumber (List Char)
  | [] => .ok []
  | .literal c :: rest => (fill m rest).map (c :: ·)
  | .reference word :: rest =>
    match resolve m word with
    | .error bad => .error bad
    | .ok text => (fill m rest).map (text ++ ·)

def expand (template : List Char) (m : Regex.Match) : Except BadNumber (List Char) :=
  fill m (pieces template)

end Upkeep.Relabel
