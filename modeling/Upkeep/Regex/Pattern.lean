import Upkeep.Regex.CharSet

/-!
Patterns. The order of the two sides of an alternative, and whether a repetition is greedy, say
which match is found first. Groups are numbered from 1 in the order of their opening brackets.
-/
namespace Upkeep.Regex

inductive Place where
  /-- Before the first character. -/
  | start
  /-- Before the first character of the text, or of any line. -/
  | lineStart (every : Bool)
  /-- At the end of the text or of any line, or before a newline that ends the text. -/
  | lineFinish (every : Bool)
  /-- At the very end. -/
  | stop
  /-- Between a word character and one that is none; `positive` is false for all other places. -/
  | boundary (ascii : Bool) (positive : Bool)
  deriving DecidableEq

inductive Pattern where
  | empty
  | one (set : CharSet)
  | seq (first second : Pattern)
  | either (first second : Pattern)
  | group (index : Nat) (body : Pattern)
  | loop (least : Nat) (most : Option Nat) (greedy : Bool) (body : Pattern)
  /-- Only the first match of the body is tried. -/
  | atomic (body : Pattern)
  | at (place : Place)
  | ahead (positive : Bool) (body : Pattern)
  /-- The body, which is `width` characters long, ends here. -/
  | behind (positive : Bool) (width : Nat) (body : Pattern)
  /-- The text of a group once more. -/
  | again (index : Nat) (fold : Fold)
  /-- The first pattern if the group has matched and the second one otherwise. -/
  | given (index : Nat) (yes no : Pattern)

namespace Pattern

/-- A repetition that gives nothing back: each round keeps its first match, as does the whole. -/
def possessive (least : Nat) (most : Option Nat) (body : Pattern) : Pattern :=
  .atomic (.loop least most true (.atomic body))

def ofList : List Pattern → Pattern
  | [] => .empty
  | [last] => last
  | first :: rest => .seq first (ofList rest)

/-- A pattern that its neighbours take as a whole, even if it is a single character. -/
def sealed (body : Pattern) : Pattern := .seq body .empty

/-- Whether two patterns are one and the same character set, place or group. -/
def alike : Pattern → Pattern → Bool
  | .one set, .one other => set = other
  | .at place, .at other => place = other
  | .again index fold, .again other otherFold => index = other && fold = otherFold
  | _, _ => false

/-- The character set that a sequence is, if it is one and no complement. -/
def set? : List Pattern → Option CharSet
  | [.one set] => if set.negated then none else some set
  | _ => none

/-- The first of some sequences or, failing that, one of the others. -/
def firstOf (first : List Pattern) : List (List Pattern) → Pattern
  | [] => ofList first
  | next :: rest => .either (ofList first) (firstOf next rest)

/-- Alternatives as one pattern. If each of them is a single character, they are a set. -/
def branch (first : List Pattern) (others : List (List Pattern)) : Pattern :=
  match set? first, others.mapM set? with
  | some set, some sets => .one (set.union sets)
  | _, _ => firstOf first others

/-- Alternatives as a sequence: what all of them begin with, and then what is left of each. -/
def choice : List Pattern → List (List Pattern) → List Pattern
  | head :: tail, others =>
    if others.all fun other => other.head?.any head.alike then
      head :: choice tail (others.map List.tail)
    else [branch (head :: tail) others]
  | [], others => [branch [] others]

/-- Alternatives as a sequence; a single one stays as it is. -/
def joined : List (List Pattern) → List Pattern
  | [] => []
  | [only] => only
  | first :: others => choice first others

end Pattern

structure Compiled where
  pattern : Pattern
  groups : Nat
  names : List (List Char × Nat)

end Upkeep.Regex
