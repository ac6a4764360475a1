import Upkeep.Text.Hex
import Upkeep.Text.Printable

/-!
Texts in quotes, for messages. Single quotes are used unless the text has one and no double quote.
What cannot be printed is escaped, so a quoted text stays on its line.
-/
namespace Upkeep.Text

/-- Double quotes only for a text with a single quote and no double one. -/
def quoteFor (cs : List Char) : Char := if cs.contains '\'' && !cs.contains '"' then '"' else '\''

/-- The escape of a character that cannot be printed, in two, four or eight digits. -/
def escapedCode (code : Nat) : List Char :=
  if code < 0x100 then '\\' :: 'x' :: hex 2 code
  else if code < 0x10000 then '\\' :: 'u' :: hex 4 code
  else '\\' :: 'U' :: hex 8 code

def quotedChar (quote c : Char) : List Char :=
  if c = quote ∨ c = '\\' then ['\\', c]
  else if c = '\n' then ['\\', 'n']
  else if c = '\r' then ['\\', 'r']
  else if c = '\t' then ['\\', 't']
  else if isPrintable c then [c]
  else escapedCode c.toNat

def quoted (s : String) : String :=
  let quote := quoteFor s.toList
  String.ofList (quote :: s.toList.flatMap (quotedChar quote) ++ [quote])

end Upkeep.Text
