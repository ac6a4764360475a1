import Upkeep.Regex.Error
import Upkeep.Regex.Flags
import Upkeep.Regex.Width
import Upkeep.Text.Identifier

/-!
Reading the text of a pattern. A reader takes tokens from the front and returns what they stand for
and the tokens that are left, or the first error that it meets. A bracket that is not closed, a
quantifier without anything to repeat and a reference to a group that is not complete are errors
where they stand; a condition on a group that never comes, a look behind of no fixed width and a
repetition that the flags forbid are errors of the pattern as a whole, found at its end.
-/
namespace Upkeep.Regex

/-- What is known of the groups at a point of the text. -/
structure Scope where
  /-- The widths of the groups that have been opened; none while a group is open. -/
  widths : List (Option Width)
  names : List (List Char × Nat)
  /-- Inside a look behind, the number of groups opened before it. -/
  behind : Option Nat
  /-- The greatest group number that a condition asks for. -/
  asked : Nat
  /-- Nothing has been read that makes the pattern as a whole invalid. -/
  sound : Bool

namespace Scope

def empty : Scope := ⟨[], [], none, 0, true⟩

def isComplete (scope : Scope) (index : Nat) : Bool :=
  index ≠ 0 && (scope.widths[index - 1]?).join.isSome

/-- Whether a look behind, if there is one, may refer to a group. -/
def visibleBehind (scope : Scope) (index : Nat) : Bool :=
  match scope.behind with
  | none => true
  | some before => scope.isComplete index && index ≤ before

def mayRepeat (scope : Scope) (index : Nat) : Bool :=
  scope.isComplete index && scope.visibleBehind index

def opened? (scope : Scope) (name : Option (List Char)) : Option Scope :=
  let index := scope.widths.length + 1
  match name with
  | none => some { scope with widths := scope.widths ++ [none] }
  | some name =>
    if (scope.names.lookup name).isSome then none
    else some { scope with widths := scope.widths ++ [none], names := (name, index) :: scope.names }

def closed (scope : Scope) (index : Nat) (body : Pattern) : Scope :=
  { scope with widths := scope.widths.set (index - 1) (some (body.width scope.widths)) }

/-- Goes into a look behind; the outermost one counts. -/
def lookingBehind (scope : Scope) : Scope :=
  { scope with behind := some (scope.behind.getD scope.widths.length) }

/-- Leaves a look behind, which must have a fixed width. -/
def lookedBehind (scope inner : Scope) (width : Width) : Scope :=
  { inner with behind := scope.behind, sound := inner.sound && width.isFixed }

def repeating (scope : Scope) (flags : Flags) : Scope :=
  { scope with sound := scope.sound && !flags.unrepeated }

def isValid (scope : Scope) : Bool := scope.sound && scope.asked ≤ scope.widths.length

end Scope

/-- Repetition bounds of this size are refused. -/
def repetitionLimit : Nat := 4294967295

/-- A bound of a repetition; without any digits it is 0. -/
def bound (digits : List Char) : Except PatternError Nat :=
  if Overlong.limit < digits.length then .error (.overlong ⟨digits.length⟩)
  else
    let value := digitsValue 10 digits
    if repetitionLimit ≤ value then .error .tooManyRounds else .ok value

/-- What a quantifier says: the least and the greatest number of rounds. -/
structure Quantifier where
  least : Nat
  most : Option Nat

namespace Quantifier

/-- The quantifier of two bounds; without an upper one the number of rounds is not limited. -/
def ofBounds (low high : List Char) : Except PatternError Quantifier := do
  let least ← bound low
  let most ← bound high
  if high.isEmpty then return ⟨least, none⟩
  else if most < least then throw .invalid
  else return ⟨least, some most⟩

/-- The bounds in braces, behind the opening one; none if the brace is an ordinary character. -/
def inBraces (ts : List Token) : Except PatternError (Option (Quantifier × List Token)) :=
  let (low, rest) := takePlain isAsciiDigit ts.length ts
  let (high, rest) := match rest with
    | .plain ',' :: rest => takePlain isAsciiDigit rest.length rest
    | rest => (low, rest)
  match ts, rest with
  | .plain '}' :: _, _ => .ok none
  | _, .plain '}' :: .dangling :: _ => .error .invalid
  | _, .plain '}' :: rest => (ofBounds low high).map fun found => some (found, rest)
  | _, _ => .ok none

/-- A quantifier that begins with the character `c`, if it is one. -/
def read (c : Char) (rest : List Token) : Except PatternError (Option (Quantifier × List Token)) :=
  match c with
  | '?' => .ok (some (⟨0, some 1⟩, rest))
  | '*' => .ok (some (⟨0, none⟩, rest))
  | '+' => .ok (some (⟨1, none⟩, rest))
  | '{' => inBraces rest
  | _ => .ok none

end Quantifier

/-- What a part of a sequence is to a quantifier behind it. -/
inductive Role where
  /-- A place has nothing to repeat. -/
  | place
  /-- A repetition must not be repeated without brackets. -/
  | loop
  | other
  deriving DecidableEq

/-- The parts of a sequence that have been read, the last one first. What stands in brackets that
are no group is one part until the end of the sequence. -/
abbrev Parts := List (Role × List Pattern)

def Parts.patterns (parts : Parts) : List Pattern := parts.reverse.flatMap Prod.snd

/-- Repeats the last part. A question mark makes the repetition lazy, a plus possessive. -/
def Parts.repeated? (parts : Parts) (q : Quantifier) (rest : List Token) :
    Option (Parts × List Token) :=
  match parts with
  | (.other, body) :: parts =>
    let body := Pattern.ofList body
    match rest with
    | .plain '?' :: rest => some ((.loop, [.loop q.least q.most false body]) :: parts, rest)
    | .plain '+' :: rest => some ((.loop, [.possessive q.least q.most body]) :: parts, rest)
    | rest => some ((.loop, [.loop q.least q.most true body]) :: parts, rest)
  | _ => none

def setMember? (ascii : Bool) : List Token → Option (SetItem × List Token)
  | .plain c :: rest => some (.letter c.toNat, rest)
  | .escaped c :: rest => setEscape? ascii c rest
  | .dangling :: _ | [] => none

/-- The members of a set up to its closing bracket, which is a plain member if it comes first. -/
def setMembers? (ascii : Bool) : (fuel : Nat) → List SetItem → List Token →
    Option (List SetItem × List Token)
  | 0, _, _ => none
  | fuel + 1, members, ts =>
    match members, ts with
    | _ :: _, .plain ']' :: rest => some (members.reverse, rest)
    | _, ts =>
      match setMember? ascii ts with
      | none => none
      | some (first, .plain '-' :: .plain ']' :: rest) =>
        some ((.letter 45 :: first :: members).reverse, rest)
      | some (first, .plain '-' :: rest) =>
        match first, setMember? ascii rest with
        | .letter low, some (.letter high, rest) =>
          if low ≤ high then setMembers? ascii fuel (.span low high :: members) rest else none
        | _, _ => none
      | some (first, rest) => setMembers? ascii fuel (first :: members) rest

/-- A set behind its opening bracket. A member that is repeated counts once. -/
def charSet? (flags : Flags) (ts : List Token) : Option (CharSet × List Token) :=
  let (negated, ts) := match ts with
    | .plain '^' :: rest => (true, rest)
    | ts => (false, ts)
  (setMembers? flags.ascii (ts.length + 1) [] ts).map fun (items, rest) =>
    (⟨negated, items.eraseDups, flags.fold⟩, rest)

/-- Group numbers of this size are refused. -/
def groupLimit : Nat := 1073741823

/-- The group that a condition asks for, by name or by number. -/
def condition? (scope : Scope) (name : List Char) : Option (Nat × Scope) :=
  let found := if Text.isIdentifier name then
      (scope.names.lookup name).map fun index => (index, scope)
    else
      match Numeral.int? name with
      | some (.ofNat (index + 1)) =>
        if groupLimit ≤ index + 1 then none
        else some (index + 1, { scope with asked := max scope.asked (index + 1) })
      | _ => none
  found.filter fun (index, _) => scope.visibleBehind index

inductive Opening where
  | group (name : Option (List Char))
  | plain
  /-- Flags of its own. -/
  | flagged (flags : Flags)
  | atomic
  | ahead (positive : Bool)
  | behind (positive : Bool)
  | condition (name : List Char)
  | again (name : List Char)
  | comment

/-- Reads what stands behind an opening bracket. -/
def opening? (flags : Flags) : List Token → Option (Opening × List Token)
  | .plain '?' :: rest =>
    match rest with
    | .plain ':' :: rest => some (.plain, rest)
    | .plain '#' :: rest => some (.comment, rest)
    | .plain '>' :: rest => some (.atomic, rest)
    | .plain '=' :: rest => some (.ahead true, rest)
    | .plain '!' :: rest => some (.ahead false, rest)
    | .plain '<' :: .plain '=' :: rest => some (.behind true, rest)
    | .plain '<' :: .plain '!' :: rest => some (.behind false, rest)
    | .plain '(' :: rest => (nameUntil? ')' rest).map fun (name, rest) => (.condition name, rest)
    | .plain 'P' :: .plain '<' :: rest =>
      match nameUntil? '>' rest with
      | some (name, rest) =>
        if Text.isIdentifier name then some (.group (some name), rest) else none
      | none => none
    | .plain 'P' :: .plain '=' :: rest =>
      (nameUntil? ')' rest).map fun (name, rest) => (.again name, rest)
    | rest =>
      match onFlags? [] flags rest with
      | some (⟨.group, _, flags⟩, rest) => some (.flagged flags, rest)
      | _ => none
  | rest => some (.group none, rest)

/-- What a reader of patterns returns: what has been read, the groups, the tokens that are left. -/
abbrev Result (α : Type) := Except PatternError (α × Scope × List Token)

/-- Takes the closing bracket behind what has been read. -/
def Result.closed {α : Type} (result : Result α) : Result α :=
  match result with
  | .ok (found, scope, .plain ')' :: rest) => .ok (found, scope, rest)
  | .ok _ => .error .invalid
  | .error error => .error error

/-- Alternatives in brackets as one sequence. -/
def Result.joined (result : Result (List (List Pattern))) : Result (List Pattern) :=
  result.closed.map fun (alternatives, scope, rest) => (Pattern.joined alternatives, scope, rest)

/-- A single token that is neither a bracket, a set nor a quantifier. -/
def simple? (flags : Flags) (scope : Scope) (t : Token) (rest : List Token) :
    Option ((Role × Pattern) × List Token) :=
  match t with
  | .plain '.' =>
    some ((.other, .one (if flags.dotAll then CharSet.all else CharSet.allButNewline)), rest)
  | .plain '^' => some ((.place, .at (.lineStart flags.multiline)), rest)
  | .plain '$' => some ((.place, .at (.lineFinish flags.multiline)), rest)
  | .plain c => some ((.other, .one (CharSet.only flags.fold c.toNat)), rest)
  | .escaped c =>
    match escape? flags.ascii c rest with
    | some (.item item, rest) => some ((.other, .one ⟨false, [item], flags.fold⟩), rest)
    | some (.place place, rest) => some ((.place, .at place), rest)
    | some (.reference index, rest) =>
      if scope.mayRepeat index then some ((.other, .again index flags.fold), rest) else none
    | none => none
  | .dangling => none

mutual

/-- Alternatives, up to a closing bracket or the end. -/
def alternatives : (fuel : Nat) → Flags → Scope → List Token → Result (List (List Pattern))
  | 0, _, _, _ => .error .invalid
  | fuel + 1, flags, scope, ts =>
    match sequence fuel flags scope [] ts with
    | .error error => .error error
    | .ok (first, scope, .plain '|' :: rest) =>
      (alternatives fuel flags scope rest).map fun (others, scope, rest) =>
        (first :: others, scope, rest)
    | .ok (first, scope, rest) => .ok ([first], scope, rest)

/-- A sequence of parts, up to a bar, a closing bracket or the end; `parts` have been read. -/
def sequence : (fuel : Nat) → Flags → Scope → Parts → List Token → Result (List Pattern)
  | 0, _, _, _, _ => .error .invalid
  | fuel + 1, flags, scope, parts, ts =>
    match ts with
    | [] | .plain '|' :: _ | .plain ')' :: _ => .ok (parts.patterns, scope, ts)
    | .plain '(' :: rest =>
      match opening? flags rest with
      | none => .error .invalid
      | some (.comment, rest) =>
        match skipComment? rest with
        | some rest => sequence fuel flags scope parts rest
        | none => .error .invalid
      | some (.again name, rest) =>
        match scope.names.lookup name with
        | some index =>
          if scope.mayRepeat index then
            sequence fuel flags scope ((.other, [.again index flags.fold]) :: parts) rest
          else .error .invalid
        | none => .error .invalid
      | some (opening, rest) =>
        match bracketed fuel flags scope opening rest with
        | .ok (part, scope, rest) => sequence fuel flags scope ((.other, part) :: parts) rest
        | .error error => .error error
    | .plain '[' :: rest =>
      match charSet? flags rest with
      | some (set, rest) => sequence fuel flags scope ((.other, [.one set]) :: parts) rest
      | none => .error .invalid
    | t :: rest =>
      match t with
      | .plain c =>
        if flags.verbose && isLayout c then sequence fuel flags scope parts rest
        else if flags.verbose && c = '#' then sequence fuel flags scope parts (skipLine rest)
        else
          match Quantifier.read c rest with
          | .error error => .error error
          | .ok (some (quantifier, rest)) =>
            match parts.repeated? quantifier rest with
            | some (parts, rest) => sequence fuel flags (scope.repeating flags) parts rest
            | none => .error .invalid
          | .ok none =>
            match simple? flags scope t rest with
            | some ((role, part), rest) => sequence fuel flags scope ((role, [part]) :: parts) rest
            | none => .error .invalid
      | _ =>
        match simple? flags scope t rest with
        | some ((role, part), rest) => sequence fuel flags scope ((role, [part]) :: parts) rest
        | none => .error .invalid

/-- What stands in brackets, with the closing one. Brackets that are no group and have no flags of
their own leave their patterns to the sequence around them. -/
def bracketed : (fuel : Nat) → Flags → Scope → Opening → List Token → Result (List Pattern)
  | 0, _, _, _, _ => .error .invalid
  | fuel + 1, flags, scope, opening, ts =>
    match opening with
    | .group name =>
      match scope.opened? name with
      | none => .error .invalid
      | some inner =>
        (alternatives fuel flags inner ts).joined.map fun (parts, after, rest) =>
          let body := Pattern.ofList parts
          ([.group inner.widths.length body], after.closed inner.widths.length body, rest)
    | .plain => (alternatives fuel flags scope ts).joined
    | .flagged flags =>
      (alternatives fuel flags scope ts).joined.map fun (parts, scope, rest) =>
        ([.sealed (.ofList parts)], scope, rest)
    | .atomic =>
      (alternatives fuel flags scope ts).joined.map fun (parts, scope, rest) =>
        ([.atomic (.ofList parts)], scope, rest)
    | .ahead positive =>
      (alternatives fuel flags scope ts).joined.map fun (parts, scope, rest) =>
        ([.ahead positive (.ofList parts)], scope, rest)
    | .behind positive =>
      (alternatives fuel flags scope.lookingBehind ts).joined.map fun (parts, after, rest) =>
        let body := Pattern.ofList parts
        let width := body.width after.widths
        ([.behind positive width.least body], scope.lookedBehind after width, rest)
    | .condition name =>
      match condition? scope name with
      | none => .error .invalid
      | some (index, scope) =>
        match sequence fuel flags scope [] ts with
        | .ok (yes, scope, .plain '|' :: rest) =>
          (sequence fuel flags scope [] rest).closed.map fun (no, scope, rest) =>
            ([.given index (.ofList yes) (.ofList no)], scope, rest)
        | result =>
          result.closed.map fun (yes, scope, rest) =>
            ([.given index (.ofList yes) .empty], scope, rest)
    | .again _ | .comment => .error .invalid

end

def ofTokens (ts : List Token) : Except PatternError Compiled :=
  match Preamble.ofTokens? (ts.length + 1) .empty ts with
  | none => .error .invalid
  | some (preamble, rest) =>
    match alternatives (3 * rest.length + 3) preamble.flags .empty rest with
    | .error error => .error error
    | .ok (sequences, scope, rest) =>
      if preamble.contradicts then .error .contradiction
      else if rest.isEmpty && scope.isValid then
        .ok ⟨.ofList (Pattern.joined sequences), scope.widths.length, scope.names⟩
      else .error .invalid

def compile (text : List Char) : Except PatternError Compiled := ofTokens (tokens text)

/-- Compiles a pattern that shall cover a text up to its end. The text of the pattern is put into
brackets without any look at its own. -/
def compileAnchored (text : List Char) : Except PatternError Compiled :=
  compile ('(' :: '?' :: ':' :: text ++ [')', '\\', 'Z'])

end Upkeep.Regex
