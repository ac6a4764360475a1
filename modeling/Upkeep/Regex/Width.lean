import Upkeep.Regex.Pattern

/-!
How many characters a pattern can match. A look behind needs one width, as it steps back by it.
-/
namespace Upkeep.Regex

/-- The least and the greatest number of characters; `none` if there is no greatest. -/
structure Width where
  least : Nat
  most : Option Nat
  deriving DecidableEq

namespace Width

def exactly (n : Nat) : Width := ⟨n, some n⟩

/-- The most characters that a look behind can step back by. -/
def limit : Nat := 4294967295

/-- Whether there is one width, by which a look behind can step back. -/
def isFixed (w : Width) : Bool := w.most = some w.least && w.least ≤ limit

def add (a b : Width) : Width :=
  ⟨a.least + b.least, match a.most, b.most with
    | some m, some n => some (m + n)
    | _, _ => none⟩

def either (a b : Width) : Width :=
  ⟨min a.least b.least, match a.most, b.most with
    | some m, some n => some (max m n)
    | _, _ => none⟩

def times (least : Nat) (most : Option Nat) (a : Width) : Width :=
  ⟨least * a.least, match most, a.most with
    | some 0, _ => some 0
    | _, some 0 => some 0
    | some n, some m => some (n * m)
    | _, _ => none⟩

end Width

/-- The width of a pattern, given those of the groups that it may refer to. -/
def Pattern.width (groups : List (Option Width)) : Pattern → Width
  | .empty | .at _ | .ahead _ _ | .behind _ _ _ => .exactly 0
  | .one _ => .exactly 1
  | .seq first second => (first.width groups).add (second.width groups)
  | .either first second => (first.width groups).either (second.width groups)
  | .group _ body => body.width groups
  | .loop least most _ body => (body.width groups).times least most
  | .atomic body => body.width groups
  | .again index _ => ((groups[index - 1]?).join).getD (.exactly 0)
  | .given _ yes no => (yes.width groups).either (no.width groups)

end Upkeep.Regex
