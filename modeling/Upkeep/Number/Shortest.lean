import Upkeep.Number.Double

/-!
The shortest decimal form of a binary64 number: the fewest digits that read back as the number, and
of those the nearest. For each count of digits only the two neighbours on that decimal grid can
read back with an error below one step, so the search tests these two.
-/
namespace Upkeep.Finite

/-- The value as a quotient in steps of `10^exponent`. -/
def inSteps (x : Finite) (exponent : Int) : Nat × Nat :=
  match exponent with
  | .ofNat e => (x.units, unitsInOne * Nat.pow 10 e)
  | .negSucc e => (x.units * Nat.pow 10 (e + 1), unitsInOne)

/-- The power of ten of the leading digit of a number other than zero. -/
def leading (x : Finite) : Int :=
  let scaled := x.inSteps (-400)
  ((Nat.toDigits 10 (scaled.1 / scaled.2)).length : Int) - 401

/-- The neighbours on the grid of `count` digits, the nearer first; a tie goes to the even one. -/
def neighbours (x : Finite) (count : Nat) : List Decimal :=
  let exponent := x.leading - count + 1
  let (num, den) := x.inSteps exponent
  let low := num / den
  let twice := 2 * (num % den)
  if twice < den ∨ (twice = den ∧ low % 2 = 0) then [⟨low, exponent⟩, ⟨low + 1, exponent⟩]
  else [⟨low + 1, exponent⟩, ⟨low, exponent⟩]

def readsBack (x : Finite) (d : Decimal) : Bool := Double.ofDecimal x.negative d = .finite x

/-- The value itself as a decimal number: a unit is 5^1074 · 10^-1074. -/
def exact (x : Finite) : Decimal := ⟨x.units * Nat.pow 5 1074, -1074⟩

/-- The first hit of a search with `count`, `count + 1`, …, if there is one in `fuel` steps. -/
def firstHit {α : Type} (search : Nat → Option α) (otherwise : α) : (fuel count : Nat) → α
  | 0, _ => otherwise
  | fuel + 1, count =>
    match search count with
    | some hit => hit
    | none => firstHit search otherwise fuel (count + 1)

/-- Seventeen digits are enough for every finite number. -/
def shortest (x : Finite) : Decimal :=
  if x.mantissa = 0 then ⟨0, 0⟩
  else firstHit (fun count => (x.neighbours count).find? x.readsBack) x.exact 17 1

end Upkeep.Finite
