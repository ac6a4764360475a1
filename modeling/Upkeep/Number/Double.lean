/-!
Binary64 numbers as plain data. Every finite one is a whole multiple of 2^-1074, so its value is an
integer count of that unit and comparison is exact. Reading rounds to the nearest number, a tie to
the even mantissa. NaN is not a `Double`.
-/
namespace Upkeep

/-- A finite number: `mantissa · 2^exponent` units of 2^-1074. The two bounds on the mantissa make
this the only form of the number, the sign of zero apart. -/
structure Finite where
  negative : Bool
  mantissa : Nat
  exponent : Nat
  mantissa_lt : mantissa < Nat.pow 2 53
  normal : exponent = 0 ∨ Nat.pow 2 52 ≤ mantissa
  exponent_le : exponent ≤ 2045
  deriving DecidableEq

namespace Finite

def units (x : Finite) : Nat := x.mantissa * Nat.pow 2 x.exponent

/-- The value in units of 2^-1074; the two zeros have the same one. -/
def signedUnits (x : Finite) : Int := if x.negative then -(x.units : Int) else x.units

def zero (negative : Bool) : Finite := ⟨negative, 0, 0, by decide, .inl rfl, by decide⟩

end Finite

/-- A finite number or one of the two infinities. -/
inductive Double where
  | finite (value : Finite)
  | infinite (negative : Bool)
  deriving DecidableEq

/-- The nearest whole number to a quotient; a half goes to the even neighbour. -/
def roundedDiv (num den : Nat) : Nat :=
  let floor := num / den
  let twice := 2 * (num % den)
  if twice < den then floor else if den < twice then floor + 1 else floor + floor % 2

theorem le_roundedDiv (num den : Nat) : num / den ≤ roundedDiv num den := by
  unfold roundedDiv
  simp only
  split
  · exact Nat.le_refl _
  · split <;> omega

/-- How far a quotient has to be shifted down to fit into 53 bits. -/
def excess (num den : Nat) : Nat := Nat.log2 (num / den) - 52

theorem normal_of_excess (num den : Nat) :
    excess num den = 0 ∨ Nat.pow 2 52 ≤ roundedDiv num (den * Nat.pow 2 (excess num den)) := by
  by_cases small : excess num den = 0
  · exact .inl small
  · refine .inr (Nat.le_trans ?_ (le_roundedDiv _ _))
    have large : excess num den + 52 = Nat.log2 (num / den) := by
      unfold excess at *
      omega
    have nonzero : num / den ≠ 0 := by
      intro h
      rw [h] at large
      have : Nat.log2 0 = 0 := by decide
      omega
    simp only [Nat.pow_eq]
    rw [← Nat.div_div_eq_div_mul, Nat.le_div_iff_mul_le (Nat.two_pow_pos _), ← Nat.pow_add,
      Nat.add_comm 52, large]
    exact Nat.log2_self_le nonzero

structure Decimal where
  digits : Nat
  exponent : Int
  deriving DecidableEq

/-- The units of 2^-1074 in one. -/
def unitsInOne : Nat := Nat.pow 2 1074

namespace Double

/-- The number nearest to `num / den` units of 2^-1074. -/
def ofRatio (negative : Bool) (num den : Nat) : Double :=
  if carry : roundedDiv num (den * Nat.pow 2 (excess num den)) < Nat.pow 2 53 then
    if fits : excess num den ≤ 2045 then
      .finite ⟨negative, _, _, carry, normal_of_excess num den, fits⟩
    else .infinite negative
  else
    if fits : excess num den + 1 ≤ 2045 then
      .finite ⟨negative, Nat.pow 2 52, _, by decide, .inr (Nat.le_refl _), fits⟩
    else .infinite negative

/-- The number nearest to a decimal one. Far outside the range the answer is known without
computing the power of ten. -/
def ofDecimal (negative : Bool) (d : Decimal) : Double :=
  let size := d.exponent + (Nat.toDigits 10 d.digits).length
  if d.digits = 0 ∨ size < -330 then .finite (Finite.zero negative)
  else if 310 < size then .infinite negative
  else match d.exponent with
    | .ofNat e => ofRatio negative (d.digits * Nat.pow 10 e * unitsInOne) 1
    | .negSucc e => ofRatio negative (d.digits * unitsInOne) (Nat.pow 10 (e + 1))

end Double
end Upkeep
