import Upkeep.Number.Limit
import Upkeep.Number.Written
import Upkeep.Text.Blank
import Upkeep.Text.Digit

/-!
Reading numbers that people type. Blanks around a number are passed over, decimal digits of every
script count, and a low line may stand between two digits. Reading a double also knows the words
for infinity and for a number that is none; an integer must not have too many digits.
-/
namespace Upkeep

/-- A time in seconds: whole, a double, not a number, or absent where one was to be given. -/
inductive Seconds where
  | whole (value : Int)
  | double (value : Double)
  | notANumber
  | absent
  deriving DecidableEq

/-- The number in messages; an absent one is written as an empty list. -/
def Seconds.text : Seconds → String
  | .whole value => String.ofList (writeInt value)
  | .double value => String.ofList (Format.plain.write value)
  | .notANumber => "nan"
  | .absent => "[]"

namespace Numeral

/-- The blanks that may surround a number: of the ASCII characters only the common six. -/
def isMargin (c : Char) : Bool :=
  c = ' ' || (9 ≤ c.toNat && c.toNat ≤ 13) || (0x80 ≤ c.toNat && Text.isBlank c)

def trimmed (cs : List Char) : List Char :=
  ((cs.dropWhile isMargin).reverse.dropWhile isMargin).reverse

def plainDigits (cs : List Char) : List Char :=
  cs.map fun c => match Text.decimalValue? c with
    | some value => Char.ofNat (48 + value)
    | none => c

def isDigit (c : Char) : Bool := '0' ≤ c && c ≤ '9'

/-- Leaves out low lines that stand between two digits; none if one stands elsewhere. -/
def withoutLowLines (afterDigit : Bool) : List Char → Option (List Char)
  | [] => some []
  | '_' :: rest =>
    match rest with
    | next :: _ => if afterDigit && isDigit next then withoutLowLines false rest else none
    | [] => none
  | c :: rest => (withoutLowLines (isDigit c) rest).map (c :: ·)

/-- The sign in front of a number, and the rest. -/
def signed : List Char → Bool × List Char
  | '-' :: rest => (true, rest)
  | '+' :: rest => (false, rest)
  | rest => (false, rest)

def natural (digits : List Char) : Nat :=
  digits.foldl (fun n c => 10 * n + (c.toNat - 48)) 0

/-- The characters of a number in their plain form. -/
def prepared? (cs : List Char) : Option (List Char) :=
  withoutLowLines false (plainDigits (trimmed cs))

def int? (cs : List Char) : Option Int := do
  let (negative, digits) := signed (← prepared? cs)
  if digits.isEmpty || !digits.all isDigit || Overlong.limit < digits.length then none
  else some (if negative then -(natural digits : Int) else natural digits)

/-- The exponent after the mark, which may be missing; nothing may follow it. -/
def exponent? : List Char → Option Int
  | [] => some 0
  | mark :: rest =>
    let (negative, digits) := signed rest
    if (mark = 'e' || mark = 'E') && !digits.isEmpty && digits.all isDigit then
      some (if negative then -(natural digits : Int) else natural digits)
    else none

def lowerAscii (cs : List Char) : List Char := cs.map Char.toLower

/-- The places behind a point, and the rest. -/
def places : List Char → List Char × List Char
  | '.' :: rest => (rest.takeWhile isDigit, rest.dropWhile isDigit)
  | rest => ([], rest)

/-- Reads digits with at most one point, and the exponent after them. -/
def decimal? (cs : List Char) : Option Decimal :=
  let whole := cs.takeWhile isDigit
  let (fraction, rest) := places (cs.dropWhile isDigit)
  if whole.isEmpty && fraction.isEmpty then none
  else (exponent? rest).map fun power => ⟨natural (whole ++ fraction), power - fraction.length⟩

def unsigned? (negative : Bool) (cs : List Char) : Option Seconds :=
  match String.ofList (lowerAscii cs) with
  | "inf" | "infinity" => some (.double (.infinite negative))
  | "nan" => some .notANumber
  | _ => (decimal? cs).map fun d => .double (Double.ofDecimal negative d)

def seconds? (cs : List Char) : Option Seconds :=
  (prepared? cs).bind fun plain => unsigned? (signed plain).1 (signed plain).2

end Numeral
end Upkeep
