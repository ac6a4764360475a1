import Upkeep.CommandLine.Usage
import Upkeep.Text.Digit

/-!
What each word of a command line is. A word that begins with a dash is an option if it spells one,
if it spells one in front of an equals sign, or if it is the beginning of exactly one; a short
option may have more text joined to it. A negative number is a value, and so is every other word
with a space in it. What is left over is an unknown option.
-/
namespace Upkeep.CommandLine

inductive Word where
  | value
  /-- An option as it is spelled, and the text joined to it. -/
  | option (flag : Flag) (spelling : List Char) (joined : Option (List Char))
  | unknown
  /-- The two dashes after which every word is a value. -/
  | separator
  deriving DecidableEq

namespace Word

def areDigits (cs : List Char) : Bool := !cs.isEmpty && cs.all Text.isDecimal

/-- A text without one line break at its end. -/
def withoutLineEnd (cs : List Char) : List Char :=
  if cs.getLast? = some '\n' then cs.dropLast else cs

/-- A dash, and digits with at most one point, which has digits behind it. -/
def isNegativeNumber : List Char → Bool
  | '-' :: rest =>
    let number := withoutLineEnd rest
    areDigits number ||
      (match number.dropWhile Text.isDecimal with
        | '.' :: places => areDigits places
        | _ => false)
  | _ => false

/-- The part in front of the first equals sign and the part behind it. -/
def splitAtEquals (cs : List Char) : Option (List Char × List Char) :=
  match cs.dropWhile (· ≠ '=') with
  | [] => none
  | _ :: behind => some (cs.takeWhile (· ≠ '='), behind)

/-- An option in front of an equals sign. -/
def assigned? (cs : List Char) : Option Word :=
  match splitAtEquals cs with
  | none => none
  | some (spelling, joined) =>
    (Flag.ofSpelling? spelling).map fun flag => .option flag spelling joined

/-- The options that a word may begin, each with the text joined to it. -/
def candidates (cs : List Char) : List (Flag × List Char × Option (List Char)) :=
  match cs with
  | '-' :: '-' :: _ =>
    match splitAtEquals cs with
    | none => (Flag.beginning cs).map fun entry => (entry.2, entry.1, none)
    | some (start, joined) =>
      (Flag.beginning start).map fun entry => (entry.2, entry.1, some joined)
  | '-' :: c :: joined =>
    match Flag.ofSpelling? ['-', c] with
    | some flag => [(flag, ['-', c], some joined)]
    | none => []
  | _ => []

/-- A word that spells no option in full. -/
def abbreviated (cs : List Char) : Except UsageError Word :=
  match candidates cs with
  | [(flag, spelling, joined)] => .ok (.option flag spelling joined)
  | [] =>
    if isNegativeNumber cs || cs.contains ' ' then .ok .value else .ok .unknown
  | several =>
    .error (.ambiguous (String.ofList cs) (several.map fun entry => String.ofList entry.2.1))

/-- What a word is, if no separator stands before it. -/
def classify (cs : List Char) : Except UsageError Word :=
  match cs with
  | '-' :: rest =>
    match Flag.ofSpelling? cs with
    | some flag => .ok (.option flag cs none)
    | none =>
      if rest.isEmpty then .ok .value
      else if rest = ['-'] then .ok .separator
      else match assigned? cs with
        | some word => .ok word
        | none => abbreviated cs
  | _ => .ok .value

def classifyAll : List String → Except UsageError (List (String × Word))
  | [] => .ok []
  | word :: rest =>
    match classify word.toList with
    | .error error => .error error
    | .ok .separator => .ok ((word, .separator) :: rest.map fun word => (word, .value))
    | .ok kind => (classifyAll rest).map ((word, kind) :: ·)

end Word
end Upkeep.CommandLine
