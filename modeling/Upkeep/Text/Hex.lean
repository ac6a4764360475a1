/-!
Hexadecimal digits, in lower case, as escapes write them.
-/
namespace Upkeep.Text

/-- At least `width` hexadecimal digits. -/
def hex (width code : Nat) : List Char :=
  let digits := Nat.toDigits 16 code
  List.replicate (width - digits.length) '0' ++ digits

def hexValue? (c : Char) : Option Nat :=
  if '0' ≤ c ∧ c ≤ '9' then some (c.toNat - '0'.toNat)
  else if 'a' ≤ c ∧ c ≤ 'f' then some (c.toNat - 'a'.toNat + 10)
  else if 'A' ≤ c ∧ c ≤ 'F' then some (c.toNat - 'A'.toNat + 10)
  else none

/-- The value of a list of digits to some base; none if one of them is not a digit. -/
def valueOf? (base : Nat) (digit? : Char → Option Nat) (cs : List Char) : Option Nat :=
  cs.foldl (fun value c => do return (← value) * base + (← digit? c)) (some 0)

end Upkeep.Text
