/-!
Sets of characters given by ranges of code points, lowest range first. The order lets a search
stop early, so membership of an ASCII character looks at the first few ranges only.
-/
namespace Upkeep.Text

/-- Ascending, disjoint ranges of code points, ends included. -/
abbrev Ranges := List (Nat × Nat)

def Ranges.contains : Ranges → Nat → Bool
  | [], _ => false
  | (low, high) :: rest, code =>
    if code < low then false else if code ≤ high then true else Ranges.contains rest code

/-- Whether some code point between two ends, both included, lies in one of the ranges. -/
def Ranges.meets (ranges : Ranges) (first last : Nat) : Bool :=
  ranges.any fun range => range.1 ≤ last && first ≤ range.2

end Upkeep.Text
