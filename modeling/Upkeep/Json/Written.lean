import Upkeep.Json.Value
import Upkeep.Number.Limit
import Upkeep.Number.Written
import Upkeep.Text.Hex

/-!
The canonical text of a JSON value: no blanks, the members of an object in the order of their keys
by code point, and only the printable ASCII characters, so the text is one line. A value with an
integer of too many digits has no text.
-/
namespace Upkeep.Json

/-- Four hexadecimal digits behind the escape for a UTF-16 unit. -/
def unit (code : Nat) : List Char := '\\' :: 'u' :: Text.hex 4 code

/-- A character outside the printable ASCII range; beyond U+FFFF as a pair of surrogates. -/
def escapedCode (code : Nat) : List Char :=
  if code < 0x10000 then unit code
  else unit (0xD800 + (code - 0x10000) / 0x400) ++ unit (0xDC00 + (code - 0x10000) % 0x400)

def writeChar (c : Char) : List Char :=
  if c = '"' then ['\\', '"']
  else if c = '\\' then ['\\', '\\']
  else if c = '\n' then ['\\', 'n']
  else if c = '\r' then ['\\', 'r']
  else if c = '\t' then ['\\', 't']
  else if c = '\x08' then ['\\', 'b']
  else if c = '\x0c' then ['\\', 'f']
  else if ' ' ≤ c ∧ c ≤ '~' then [c]
  else escapedCode c.toNat

def writeString (s : String) : List Char := '"' :: s.toList.flatMap writeChar ++ ['"']

def separated : List (List Char) → List Char
  | [] => []
  | [text] => text
  | text :: rest => text ++ ',' :: separated rest

mutual

def write : Json → List Char
  | .null => ['n', 'u', 'l', 'l']
  | .bool b => if b then ['t', 'r', 'u', 'e'] else ['f', 'a', 'l', 's', 'e']
  | .int n => writeInt n
  | .float x => Format.json.write x
  | .str s => writeString s
  | .arr items => '[' :: separated (writeItems items) ++ [']']
  | .obj members =>
    '{' :: separated ((writeMembers members).sorted.map fun m => writeString m.1 ++ ':' :: m.2) ++
      ['}']

def writeItems : List Json → List (List Char)
  | [] => []
  | item :: rest => write item :: writeItems rest

def writeMembers : List (String × Json) → Table String (List Char)
  | [] => []
  | (key, value) :: rest => (key, write value) :: writeMembers rest

end

/-- The text of a value that has one. -/
def spelled (value : Json) : String := String.ofList value.write

mutual

/-- The integers in a value, at any depth. -/
def integers : Json → List Int
  | .int n => [n]
  | .arr items => integersOfItems items
  | .obj members => integersOfMembers members
  | .null | .bool _ | .float _ | .str _ => []

def integersOfItems : List Json → List Int
  | [] => []
  | item :: rest => integers item ++ integersOfItems rest

def integersOfMembers : List (String × Json) → List Int
  | [] => []
  | (_, value) :: rest => integers value ++ integersOfMembers rest

end

/-- No integer in the value has too many digits to be written. -/
def Writable (value : Json) : Prop :=
  ∀ n ∈ value.integers, (Nat.toDigits 10 n.natAbs).length ≤ Overlong.limit

instance : DecidablePred Writable := fun value => List.decidableBAll _ value.integers

def text (value : Json) : Except Unwritable String :=
  if value.Writable then .ok value.spelled else .error .overlong

end Upkeep.Json
