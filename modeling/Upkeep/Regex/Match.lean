import Upkeep.Regex.Pattern

/-!
Matching by backtracking. A matcher is given a cursor and what is to be done with each cursor that
it can move to; it tries these in order of preference and returns the first success. A repetition
makes its required rounds first. A further round is not started at the place where the last one was
started, so a round that consumes nothing is the last, and the text that is left bounds how many
there are.
-/
namespace Upkeep.Regex

/-- A place in a text, what lies on both sides of it, and the groups matched so far. -/
structure Cursor where
  /-- The characters before the place, nearest first. -/
  before : List Char
  after : List Char
  captures : List (Nat × List Char)

namespace Cursor

def ofText (text : List Char) : Cursor := ⟨[], text, []⟩

def past (c : Cursor) (char : Char) (rest : List Char) : Cursor :=
  { c with before := char :: c.before, after := rest }

def capture? (c : Cursor) (index : Nat) : Option (List Char) := c.captures.lookup index

/-- Takes note of the text between an earlier cursor and this one. -/
def captured (c : Cursor) (index : Nat) (opened : Cursor) : Cursor :=
  let text := opened.after.take (opened.after.length - c.after.length)
  { c with captures := (index, text) :: c.captures.filter (·.1 != index) }

/-- Moves forward over a given text, if it comes next. -/
def over? (fold : Fold) (c : Cursor) : List Char → Option Cursor
  | [] => some c
  | expected :: more =>
    match c.after with
    | [] => none
    | char :: rest =>
      if fold.lower char.toNat = fold.lower expected.toNat then (c.past char rest).over? fold more
      else none

/-- Moves back by some characters, if there are as many. -/
def back? (c : Cursor) : Nat → Option Cursor
  | 0 => some c
  | n + 1 =>
    match c.before with
    | [] => none
    | char :: before => back? { c with before := before, after := char :: c.after } n

end Cursor

def isWordChar (ascii : Bool) (c : Char) : Bool :=
  Category.word.contains c.toNat && (!ascii || c.toNat < 0x80)

def Place.holds (place : Place) (c : Cursor) : Bool :=
  match place with
  | .start => c.before.isEmpty
  | .lineStart every => c.before.isEmpty || (every && c.before.head? == some '\n')
  | .lineFinish every =>
    c.after.isEmpty || c.after == ['\n'] || (every && c.after.head? == some '\n')
  | .stop => c.after.isEmpty
  | .boundary ascii positive =>
    !(c.before.isEmpty && c.after.isEmpty) &&
      ((c.before.head?.any (isWordChar ascii) != c.after.head?.any (isWordChar ascii)) == positive)

/-- What is to be done with a cursor. -/
abbrev Continue := Cursor → Option Cursor

/-- A way to move a cursor forward. -/
abbrev Step := Cursor → Continue → Option Cursor

/-- A number of rounds that must be made. -/
def rounds (step : Step) : Nat → Step
  | 0, c, go => go c
  | n + 1, c, go => step c fun c => rounds step n c go

/-- Rounds that may be made, at most `most` of them; `started` is the length of the text that was
left where the last one started. -/
def moreRounds (step : Step) (greedy : Bool) :
    (fuel : Nat) → (most started : Option Nat) → Step
  | 0, _, _, c, go => go c
  | fuel + 1, most, started, c, go =>
    let onceMore (_ : Unit) : Option Cursor :=
      if most = some 0 ∨ started = some c.after.length then none
      else step c fun next =>
        moreRounds step greedy fuel (most.map (· - 1)) (some c.after.length) next go
    if greedy then (onceMore () <|> go c) else (go c <|> onceMore ())

namespace Pattern

/-- Tries the ways of matching a pattern at a cursor, in order. -/
def run : Pattern → Step
  | .empty, c, go => go c
  | .one set, c, go =>
    match c.after with
    | [] => none
    | char :: rest => if set.contains char then go (c.past char rest) else none
  | .seq first second, c, go => run first c fun c => run second c go
  | .either first second, c, go => (run first c go <|> run second c go)
  | .group index body, c, go => run body c fun next => go (next.captured index c)
  | .loop least most greedy body, c, go =>
    rounds (run body) least c fun c =>
      moreRounds (run body) greedy (c.after.length + 1) (most.map (· - least)) none c go
  | .atomic body, c, go =>
    match run body c some with
    | some next => go next
    | none => none
  | .at place, c, go => if place.holds c then go c else none
  | .ahead positive body, c, go =>
    match run body c some with
    | some found => if positive then go { c with captures := found.captures } else none
    | none => if positive then none else go c
  | .behind positive width body, c, go =>
    match (c.back? width).bind fun earlier => run body earlier some with
    | some found => if positive then go { c with captures := found.captures } else none
    | none => if positive then none else go c
  | .again index fold, c, go =>
    match c.capture? index with
    | some text => (c.over? fold text).bind go
    | none => none
  | .given index yes no, c, go =>
    if (c.capture? index).isSome then run yes c go else run no c go

end Pattern

/-- A match: the text that it covers, what is left behind it, and the groups. -/
structure Match where
  regex : Compiled
  whole : List Char
  rest : List Char
  captures : List (Nat × List Char)

namespace Compiled

def matchAt (r : Compiled) (c : Cursor) : Option Match :=
  (r.pattern.run c some).map fun found =>
    ⟨r, c.after.take (c.after.length - found.after.length), found.after, found.captures⟩

/-- The first match that starts where the text does. -/
def matchStart (r : Compiled) (text : List Char) : Option Match := r.matchAt (Cursor.ofText text)

def findFrom (r : Compiled) (before : List Char) : List Char → Option Match
  | [] => r.matchAt ⟨before, [], []⟩
  | char :: rest =>
    match r.matchAt ⟨before, char :: rest, []⟩ with
    | some found => some found
    | none => findFrom r (char :: before) rest

/-- The match that starts first. -/
def find (r : Compiled) (text : List Char) : Option Match := r.findFrom [] text

end Compiled

namespace Match

/-- The text of a group by number, 0 being the whole match; empty if there is no such group or it
has not taken part. -/
def numbered (m : Match) (index : Nat) : List Char :=
  if index = 0 then m.whole else (m.captures.lookup index).getD []

def named (m : Match) (name : List Char) : List Char :=
  match m.regex.names.lookup name with
  | some index => m.numbered index
  | none => []

end Match
end Upkeep.Regex
