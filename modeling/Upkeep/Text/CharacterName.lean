import Upkeep.Text.Hex
import Upkeep.Text.Names.Aliases
import Upkeep.Text.Names.Ancient
import Upkeep.Text.Names.Asian
import Upkeep.Text.Names.Eastern
import Upkeep.Text.Names.Indic
import Upkeep.Text.Names.MiddleEastern
import Upkeep.Text.Names.Phonetic
import Upkeep.Text.Names.Pictorial
import Upkeep.Text.Names.Pictures
import Upkeep.Text.Names.Presentation
import Upkeep.Text.Names.Shapes
import Upkeep.Text.Names.Symbolic
import Upkeep.Text.Names.Technical
import Upkeep.Text.Names.Western
import Upkeep.Text.Range

/-!
Characters by name, as of Unicode 14. Most names stand in tables and may be given in capital or
small letters. The names of Korean syllables are spelled out of their sounds and those of unified
ideographs end in their code point; these must be given in capitals. The names of some other scripts
are numbered too.
-/
namespace Upkeep.Text

def behind? (beginning : String) (cs : List Char) : Option (List Char) :=
  if beginning.toList.isPrefixOf cs then some (cs.drop beginning.length) else none

namespace Syllable

def initials : List String :=
  ["G", "GG", "N", "D", "DD", "R", "M", "B", "BB", "S", "SS", "", "J", "JJ", "C", "K", "T", "P",
   "H"]

def vowels : List String :=
  ["A", "AE", "YA", "YAE", "EO", "E", "YEO", "YE", "O", "WA", "WAE", "OE", "YO", "U", "WEO", "WE",
   "WI", "YU", "EU", "YI", "I"]

def finals : List String :=
  ["", "G", "GG", "GS", "N", "NJ", "NH", "D", "L", "LG", "LM", "LB", "LS", "LT", "LP", "LH", "M",
   "B", "BS", "S", "SS", "NG", "J", "C", "K", "T", "P", "H"]

/-- The longest sound with which a text begins: its place in the list, and the rest of the text. -/
def sound? (sounds : List String) (cs : List Char) : Option (Nat × List Char) :=
  let found := sounds.zipIdx.filter fun sound => sound.1.toList.isPrefixOf cs
  let longest := found.foldl (fun best sound => max best sound.1.length) 0
  (found.find? fun sound => sound.1.length = longest).map fun sound => (sound.2, cs.drop longest)

/-- The syllable that some sounds spell. -/
def ofSounds? (cs : List Char) : Option Nat := do
  let (initial, cs) ← sound? initials cs
  let (vowel, cs) ← sound? vowels cs
  let (final, cs) ← sound? finals cs
  if cs.isEmpty then
    some (0xAC00 + (initial * vowels.length + vowel) * finals.length + final)
  else none

end Syllable

/-- The ideographs that are named by their code point. -/
def unifiedIdeographRanges : Ranges :=
  [(0x3400, 0x4DBF), (0x4E00, 0x9FFF), (0x20000, 0x2A6DF), (0x2A700, 0x2B738), (0x2B740, 0x2B81D),
   (0x2B820, 0x2CEA1), (0x2CEB0, 0x2EBE0), (0x30000, 0x3134A)]

def compatibilityIdeographRanges : Ranges :=
  [(0xF900, 0xFA6D), (0xFA70, 0xFAD9), (0x2F800, 0x2FA1D)]

def khitanRanges : Ranges := [(0x18B00, 0x18CD5)]

def nushuRanges : Ranges := [(0x1B170, 0x1B2FB)]

/-- The value of hexadecimal digits in capitals. -/
def capitalHex? (digits : List Char) : Option Nat :=
  if digits.any fun c => 'a' ≤ c && c ≤ 'f' then none else valueOf? 16 hexValue? digits

/-- The unified ideograph of four or five digits. -/
def ideograph? (digits : List Char) : Option Nat :=
  if digits.length = 4 ∨ digits.length = 5 then
    (capitalHex? digits).filter unifiedIdeographRanges.contains
  else none

/-- The character of a script whose code point is written without leading zeros. -/
def numbered? (ranges : Ranges) (digits : List Char) : Option Nat :=
  if digits.head? = some '0' then none else (capitalHex? digits).filter ranges.contains

/-- The component of Tangut ideographs of three decimal digits. -/
def tangutComponent? (digits : List Char) : Option Nat :=
  if digits.length = 3 && digits.all Char.isDigit then
    (valueOf? 10 hexValue? digits).bind fun number =>
      if 1 ≤ number && number ≤ 768 then some (0x187FF + number) else none
  else none

def nameTables : List (List Names.Run) :=
  [Names.western, Names.middleEastern, Names.indic, Names.eastern, Names.phonetic, Names.technical,
   Names.shapes, Names.asian, Names.presentation, Names.ancient, Names.pictorial, Names.symbolic,
   Names.pictures, Names.aliases]

/-- The character whose name, in capitals, stands in a table or is numbered. -/
def listedCode? (name : List Char) : Option Nat :=
  match behind? "CJK COMPATIBILITY IDEOGRAPH-" name, behind? "KHITAN SMALL SCRIPT CHARACTER-" name,
    behind? "NUSHU CHARACTER-" name, behind? "TANGUT COMPONENT-" name with
  | some digits, _, _, _ => numbered? compatibilityIdeographRanges digits
  | _, some digits, _, _ => numbered? khitanRanges digits
  | _, _, some digits, _ => numbered? nushuRanges digits
  | _, _, _, some digits => tangutComponent? digits
  | _, _, _, _ => nameTables.findSome? fun table => table.findSome? fun run => run.find? name

def namedCode? (name : List Char) : Option Nat :=
  match behind? "HANGUL SYLLABLE " name, behind? "CJK UNIFIED IDEOGRAPH-" name with
  | some sounds, _ => Syllable.ofSounds? sounds
  | _, some digits => ideograph? digits
  | _, _ => listedCode? (name.map Char.toUpper)

end Upkeep.Text
