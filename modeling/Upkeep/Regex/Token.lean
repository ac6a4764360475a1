import Upkeep.Regex.Pattern
import Upkeep.Text.CharacterName

/-!
The smallest parts of the text of a pattern, and what an escape stands for. A backslash and the
character behind it are one token, so an escaped bracket never closes anything. A backslash with
nothing behind it is a token of its own, which no reader accepts.
-/
namespace Upkeep.Regex

inductive Token where
  | plain (c : Char)
  | escaped (c : Char)
  /-- A backslash at the end of the text. -/
  | dangling
  deriving DecidableEq

def tokens : List Char → List Token
  | [] => []
  | ['\\'] => [.dangling]
  | '\\' :: c :: rest => .escaped c :: tokens rest
  | c :: rest => .plain c :: tokens rest

/-- At most `limit` plain tokens from the front whose characters have a property. -/
def takePlain (p : Char → Bool) : (limit : Nat) → List Token → List Char × List Token
  | limit + 1, .plain c :: rest =>
    if p c then
      let (cs, rest) := takePlain p limit rest
      (c :: cs, rest)
    else ([], .plain c :: rest)
  | _, rest => ([], rest)

def isAsciiDigit (c : Char) : Bool := '0' ≤ c && c ≤ '9'

def isOctalDigit (c : Char) : Bool := '0' ≤ c && c ≤ '7'

def isAsciiLetter (c : Char) : Bool := ('a' ≤ c && c ≤ 'z') || ('A' ≤ c && c ≤ 'Z')

def isHexDigit (c : Char) : Bool := (Text.hexValue? c).isSome

def digitsValue (base : Nat) (cs : List Char) : Nat :=
  cs.foldl (fun n c => base * n + ((Text.hexValue? c).getD 0)) 0

def hexCode? (width : Nat) (ts : List Token) : Option (Nat × List Token) :=
  let (cs, rest) := takePlain isHexDigit width ts
  let code := digitsValue 16 cs
  if cs.length = width ∧ code ≤ 0x10FFFF then some (code, rest) else none

/-- The classes that an escape can stand for. -/
def category? (ascii : Bool) : Char → Option SetItem
  | 'd' => some (.kind .digit ascii true)
  | 'D' => some (.kind .digit ascii false)
  | 's' => some (.kind .space ascii true)
  | 'S' => some (.kind .space ascii false)
  | 'w' => some (.kind .word ascii true)
  | 'W' => some (.kind .word ascii false)
  | _ => none

/-- Control characters that have an escape of their own. -/
def control? : Char → Option Nat
  | 'a' => some 7
  | 'f' => some 12
  | 'n' => some 10
  | 'r' => some 13
  | 't' => some 9
  | 'v' => some 11
  | _ => none

def nameUntil? (ending : Char) : List Token → Option (List Char × List Token)
  | .plain c :: rest =>
    if c = ending then some ([], rest)
    else (nameUntil? ending rest).map fun (name, rest) => (c :: name, rest)
  | _ => none

/-- A character by name, in braces. -/
def namedCode? : List Token → Option (Nat × List Token)
  | .plain '{' :: rest =>
    match nameUntil? '}' rest with
    | some (name, rest) => (Text.namedCode? name).map fun code => (code, rest)
    | none => none
  | _ => none

/-- An escape by code point, `x`, `u` or `U` and their digits, or by name. -/
def coded? (c : Char) (rest : List Token) : Option (Option (Nat × List Token)) :=
  match c with
  | 'x' => some (hexCode? 2 rest)
  | 'u' => some (hexCode? 4 rest)
  | 'U' => some (hexCode? 8 rest)
  | 'N' => some (namedCode? rest)
  | _ => none

/-- What an escape stands for outside of a set. -/
inductive Escape where
  | item (item : SetItem)
  | place (place : Place)
  | reference (index : Nat)

/-- A digit other than 0: three octal digits are a code point, one or two digits a group. -/
def numberEscape? (c : Char) (rest : List Token) : Option (Escape × List Token) :=
  let (more, after) := takePlain isAsciiDigit 1 rest
  let (last, afterLast) := takePlain isOctalDigit 1 after
  if isOctalDigit c && more.all isOctalDigit && !more.isEmpty && !last.isEmpty then
    let code := digitsValue 8 (c :: more ++ last)
    if code ≤ 0o377 then some (.item (.letter code), afterLast) else none
  else some (.reference (digitsValue 10 (c :: more)), after)

def escape? (ascii : Bool) (c : Char) (rest : List Token) : Option (Escape × List Token) :=
  match c with
  | 'A' => some (.place .start, rest)
  | 'Z' => some (.place .stop, rest)
  | 'b' => some (.place (.boundary ascii true), rest)
  | 'B' => some (.place (.boundary ascii false), rest)
  | '0' =>
    let (more, rest) := takePlain isOctalDigit 2 rest
    some (.item (.letter (digitsValue 8 more)), rest)
  | c =>
    match category? ascii c, control? c, coded? c rest with
    | some item, _, _ => some (.item item, rest)
    | none, some code, _ => some (.item (.letter code), rest)
    | none, none, some coded => coded.map fun (code, rest) => (.item (.letter code), rest)
    | none, none, none =>
      if isAsciiDigit c then numberEscape? c rest
      else if isAsciiLetter c then none
      else some (.item (.letter c.toNat), rest)

/-- Reads an escape inside a set. -/
def setEscape? (ascii : Bool) (c : Char) (rest : List Token) : Option (SetItem × List Token) :=
  match category? ascii c, control? c, coded? c rest with
  | some item, _, _ => some (item, rest)
  | none, some code, _ => some (.letter code, rest)
  | none, none, some coded => coded.map fun (code, rest) => (.letter code, rest)
  | none, none, none =>
    if c = 'b' then some (.letter 8, rest)
    else if isOctalDigit c then
      let (more, rest) := takePlain isOctalDigit 2 rest
      let code := digitsValue 8 (c :: more)
      if code ≤ 0o377 then some (.letter code, rest) else none
    else if isAsciiDigit c || isAsciiLetter c then none
    else some (.letter c.toNat, rest)

end Upkeep.Regex
