import Upkeep.Json.Value
import Upkeep.Number.Written
import Upkeep.Text.Hex

/-!
Reading JSON texts. A number without point and exponent is an integer of any size, any other one a
double; the two infinities are read as they are written here. A key that occurs twice keeps its
first place and takes its last value. A reader returns what it read and the rest of the text; half a
surrogate pair reads as U+FFFD.
-/
namespace Upkeep.Json.Reader

def skipBlanks (cs : List Char) : List Char :=
  cs.dropWhile fun c => c = ' ' || c = '\n' || c = '\r' || c = '\t'

abbrev Result (α : Type) := Option (α × List Char)

/-- A character in front of a string that has been read. -/
def before (c : Char) (result : Result (List Char)) : Result (List Char) :=
  result.map fun (cs, rest) => (c :: cs, rest)

/-- The first half of a surrogate pair that has no second half. -/
def unpaired (high : Option Nat) (result : Result (List Char)) : Result (List Char) :=
  if high.isSome then before '\uFFFD' result else result

/-- The characters of a string after its opening quote; `high` is the first half of a surrogate pair
that has just been read. -/
def string (high : Option Nat) : List Char → Result (List Char)
  | '"' :: rest => unpaired high (some ([], rest))
  | '\\' :: 'u' :: a :: b :: c :: d :: rest =>
    match Text.valueOf? 16 Text.hexValue? [a, b, c, d] with
    | none => none
    | some code =>
      if 0xD800 ≤ code ∧ code < 0xDC00 then unpaired high (string (some code) rest)
      else if 0xDC00 ≤ code ∧ code < 0xE000 then
        match high with
        | some first =>
          before (Char.ofNat (0x10000 + (first - 0xD800) * 0x400 + (code - 0xDC00)))
            (string none rest)
        | none => before '\uFFFD' (string none rest)
      else unpaired high (before (Char.ofNat code) (string none rest))
  | '\\' :: c :: rest =>
    match c with
    | '"' | '\\' | '/' => unpaired high (before c (string none rest))
    | 'b' => unpaired high (before '\x08' (string none rest))
    | 'f' => unpaired high (before '\x0c' (string none rest))
    | 'n' => unpaired high (before '\n' (string none rest))
    | 'r' => unpaired high (before '\r' (string none rest))
    | 't' => unpaired high (before '\t' (string none rest))
    | _ => none
  | c :: rest => unpaired high (before c (string none rest))
  | [] => none

def isDigit (c : Char) : Bool := '0' ≤ c && c ≤ '9'

def natural (digits : List Char) : Nat :=
  digits.foldl (fun n c => 10 * n + (c.toNat - '0'.toNat)) 0

/-- The exponent behind a mark `e`, and the rest. -/
def exponent : List Char → Result Int
  | '-' :: rest => (exponentDigits rest).map fun (n, rest) => (-(n : Int), rest)
  | '+' :: rest => (exponentDigits rest).map fun (n, rest) => ((n : Int), rest)
  | rest => (exponentDigits rest).map fun (n, rest) => ((n : Int), rest)
where
  exponentDigits (cs : List Char) : Result Nat :=
    let digits := cs.takeWhile isDigit
    if digits.isEmpty then none else some (natural digits, cs.dropWhile isDigit)

/-- The digits behind a point, if there is one, and the rest. -/
def fraction : List Char → List Char × List Char
  | '.' :: rest => (rest.takeWhile isDigit, rest.dropWhile isDigit)
  | rest => ([], rest)

/-- A number whose sign has been read. -/
def number (negative : Bool) (cs : List Char) : Result Json :=
  let whole := cs.takeWhile isDigit
  let (places, rest) := fraction (cs.dropWhile isDigit)
  let double (power : Int) : Json :=
    .float (Double.ofDecimal negative ⟨natural (whole ++ places), power - places.length⟩)
  if whole.isEmpty then none
  else match rest with
    | 'e' :: rest | 'E' :: rest =>
      (exponent rest).map fun (power, rest) => (double power, rest)
    | rest =>
      if places.isEmpty then
        some (.int (if negative then -(natural whole : Int) else natural whole), rest)
      else some (double 0, rest)

def word (expected : List Char) (value : Json) (cs : List Char) : Result Json :=
  if expected.isPrefixOf cs then some (value, cs.drop expected.length) else none

/-- The word for infinity behind its first letter. -/
def infinityRest : List Char := Format.json.infinity.toList.tail

mutual

def value : Nat → List Char → Result Json
  | 0, _ => none
  | fuel + 1, cs =>
    match skipBlanks cs with
    | '{' :: rest =>
      match skipBlanks rest with
      | '}' :: rest => some (.obj [], rest)
      | _ => (members fuel [] rest).map fun (found, rest) => (.obj (Table.ofEntries found), rest)
    | '[' :: rest =>
      match skipBlanks rest with
      | ']' :: rest => some (.arr [], rest)
      | _ => (items fuel rest).map fun (found, rest) => (.arr found, rest)
    | '"' :: rest => (string none rest).map fun (found, rest) => (.str (String.ofList found), rest)
    | '-' :: 'I' :: rest => word infinityRest (.float (.infinite true)) rest
    | '-' :: rest => number true rest
    | 'I' :: rest => word infinityRest (.float (.infinite false)) rest
    | 'n' :: rest => word ['u', 'l', 'l'] .null rest
    | 't' :: rest => word ['r', 'u', 'e'] (.bool true) rest
    | 'f' :: rest => word ['a', 'l', 's', 'e'] (.bool false) rest
    | cs => number false cs

/-- The items of a list that is not empty, with its closing bracket. -/
def items : Nat → List Char → Result (List Json)
  | 0, _ => none
  | fuel + 1, cs =>
    match value fuel cs with
    | none => none
    | some (item, rest) =>
      match skipBlanks rest with
      | ',' :: rest => (items fuel rest).map fun (found, rest) => (item :: found, rest)
      | ']' :: rest => some ([item], rest)
      | _ => none

/-- The members of an object that is not empty, with its closing brace; `done` are those before. -/
def members : Nat → List (String × Json) → List Char → Result (List (String × Json))
  | 0, _, _ => none
  | fuel + 1, done, cs =>
    match skipBlanks cs with
    | '"' :: rest =>
      match string none rest with
      | none => none
      | some (key, rest) =>
        match skipBlanks rest with
        | ':' :: rest =>
          match value fuel rest with
          | none => none
          | some (found, rest) =>
            match skipBlanks rest with
            | ',' :: rest => members fuel ((String.ofList key, found) :: done) rest
            | '}' :: rest => some (((String.ofList key, found) :: done).reverse, rest)
            | _ => none
        | _ => none
    | _ => none

end

end Upkeep.Json.Reader

namespace Upkeep.Json

def ofText? (text : String) : Option Json :=
  match Reader.value (text.length + 1) text.toList with
  | some (value, rest) => if (Reader.skipBlanks rest).isEmpty then some value else none
  | none => none

end Upkeep.Json
