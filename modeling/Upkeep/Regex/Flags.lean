import Upkeep.Regex.Token

/-!
Flags of a pattern: case, line ends, the dot, blanks, the ASCII classes, and whether anything may be
repeated. A group may turn flags on and off for its own text; flags for the whole pattern stand at
its beginning.
-/
namespace Upkeep.Regex

structure Flags where
  ignoreCase : Bool
  multiline : Bool
  dotAll : Bool
  verbose : Bool
  ascii : Bool
  /-- The pattern must not repeat anything. -/
  unrepeated : Bool

namespace Flags

/-- No flag is set. -/
def plain : Flags := ⟨false, false, false, false, false, false⟩

def fold (flags : Flags) : Fold :=
  if flags.ignoreCase then (if flags.ascii then .ascii else .unicode) else .exact

/-- The flags that can be turned off again. -/
def set? (on : Bool) (flags : Flags) : Char → Option Flags
  | 'i' => some { flags with ignoreCase := on }
  | 'm' => some { flags with multiline := on }
  | 's' => some { flags with dotAll := on }
  | 'x' => some { flags with verbose := on }
  | _ => none

/-- Turns a flag on; of the two that choose the classes only one may occur in one list. -/
def turnOn? (chosen : List Char) (flags : Flags) (c : Char) : Option Flags :=
  match c with
  | 'a' => if chosen.contains 'u' then none else some { flags with ascii := true }
  | 'u' => if chosen.contains 'a' then none else some { flags with ascii := false }
  | 't' => some { flags with unrepeated := true }
  | c => flags.set? true c

end Flags

/-- What a list of flags is for: the whole pattern, or the group that follows. -/
inductive FlagScope where
  | whole
  | group
  deriving DecidableEq

/-- The flags to be turned off, at least one, up to the colon. A flag must not be turned both on
and off. -/
def offFlags? (on : List Char) (flags : Flags) : (any : Bool) → List Token →
    Option (Flags × List Token)
  | any, .plain c :: rest =>
    if c = ':' && any then some (flags, rest)
    else if on.contains c then none
    else match flags.set? false c with
      | some flags => offFlags? on flags true rest
      | none => none
  | _, _ => none

/-- A list of flags: what it is for, the flags that it turns on, and those then in force. -/
structure FlagList where
  scope : FlagScope
  on : List Char
  flags : Flags

/-- The flags to be turned on, and those to be turned off; `on` are the ones read so far. That
nothing may be repeated can only be said of the whole pattern. -/
def onFlags? (on : List Char) (flags : Flags) : List Token → Option (FlagList × List Token)
  | .plain c :: rest =>
    if c = ')' && !on.isEmpty then some (⟨.whole, on, flags⟩, rest)
    else if c = '-' then
      if on.contains 't' then none
      else (offFlags? on flags false rest).map fun (flags, rest) => (⟨.group, on, flags⟩, rest)
    else if c = ':' && !on.isEmpty then
      if on.contains 't' then none else some (⟨.group, on, flags⟩, rest)
    else match flags.turnOn? on c with
      | some flags => onFlags? (c :: on) flags rest
      | none => none
  | _ => none

/-- Passes over a comment, up to its closing bracket. -/
def skipComment? : List Token → Option (List Token)
  | [] => none
  | .plain ')' :: rest => some rest
  | _ :: rest => skipComment? rest

/-- Passes over the rest of a line. -/
def skipLine : List Token → List Token
  | [] => []
  | .plain '\n' :: rest => rest
  | .dangling :: rest => .dangling :: rest
  | _ :: rest => skipLine rest

/-- The blanks that a verbose pattern may hold. -/
def isLayout (c : Char) : Bool := c = ' ' || (9 ≤ c.toNat && c.toNat ≤ 13)

/-- The flags for the whole pattern, and all that were turned on one after another. -/
structure Preamble where
  flags : Flags
  on : List Char

namespace Preamble

def empty : Preamble := ⟨.plain, []⟩

/-- Whether both the ASCII classes and the others are asked for. -/
def contradicts (preamble : Preamble) : Bool :=
  preamble.on.contains 'a' && preamble.on.contains 'u'

/-- Reads the flags for the whole pattern at its beginning, between comments. -/
def ofTokens? : (fuel : Nat) → Preamble → List Token → Option (Preamble × List Token)
  | 0, _, _ => none
  | fuel + 1, preamble, ts =>
    match ts with
    | .plain '(' :: .plain '?' :: .plain '#' :: rest =>
      match skipComment? rest with
      | some rest => ofTokens? fuel preamble rest
      | none => none
    | .plain '(' :: .plain '?' :: rest =>
      match onFlags? [] preamble.flags rest with
      | some (⟨.whole, on, flags⟩, rest) => ofTokens? fuel ⟨flags, on ++ preamble.on⟩ rest
      | _ => some (preamble, ts)
    | .plain c :: rest =>
      if preamble.flags.verbose && isLayout c then ofTokens? fuel preamble rest
      else if preamble.flags.verbose && c = '#' then ofTokens? fuel preamble (skipLine rest)
      else some (preamble, ts)
    | ts => some (preamble, ts)

end Preamble
end Upkeep.Regex
