import Mathlib.Tactic.Ring
import Upkeep.Number.Shortest

/-! Doubles read back. Rounding sees a quotient, not how it is written, and leaves alone what is a
double already. So the shortest decimal form of a finite double is read as the double itself. -/
namespace Upkeep

/-! ### Rounding a quotient -/

theorem roundedDiv_mul_right (num den : Nat) {k : Nat} (positive : 0 < k) :
    roundedDiv (num * k) (den * k) = roundedDiv num den := by
  have rest : 2 * (num % den * k) = 2 * (num % den) * k := (Nat.mul_assoc _ _ _).symm
  simp only [roundedDiv, Nat.mul_div_mul_right _ _ positive, Nat.mul_mod_mul_right, rest,
    Nat.mul_lt_mul_right positive]

theorem roundedDiv_mul_self (n : Nat) {den : Nat} (positive : 0 < den) :
    roundedDiv (n * den) den = n := by
  simp [roundedDiv, Nat.mul_div_cancel _ positive, positive]

theorem excess_mul_right (num den : Nat) {k : Nat} (positive : 0 < k) :
    excess (num * k) (den * k) = excess num den := by
  rw [excess, Nat.mul_div_mul_right _ _ positive, excess]

namespace Double

theorem ofRatio_mul_right (negative : Bool) (num den : Nat) {k : Nat} (positive : 0 < k) :
    ofRatio negative (num * k) (den * k) = ofRatio negative num den := by
  have rounded : ∀ e, roundedDiv (num * k) (den * k * Nat.pow 2 e) =
      roundedDiv num (den * Nat.pow 2 e) := by
    intro e
    rw [Nat.mul_right_comm, roundedDiv_mul_right _ _ positive]
  simp only [ofRatio, excess_mul_right _ _ positive, rounded]

/-- Equal quotients are rounded to the same double. -/
theorem ofRatio_congr (negative : Bool) {num den num' den' : Nat} (left : 0 < den)
    (right : 0 < den') (equal : num * den' = num' * den) :
    ofRatio negative num den = ofRatio negative num' den' := by
  rw [← ofRatio_mul_right negative num den right, equal, Nat.mul_comm den den',
    ofRatio_mul_right negative num' den' left]

end Double

namespace Finite

theorem excess_units (x : Finite) : excess x.units 1 = x.exponent := by
  have bound : x.mantissa < 2 ^ 53 := x.mantissa_lt
  rw [excess, Nat.div_one, units]
  rcases x.normal with zero | normal
  · rw [zero]
    by_cases none : x.mantissa = 0
    · rw [none]
      decide
    · have small := (Nat.log2_lt none).mpr bound
      simp only [Nat.pow_eq, Nat.pow_zero, Nat.mul_one]
      omega
  · have normal : 2 ^ 52 ≤ x.mantissa := normal
    have some : x.mantissa * 2 ^ x.exponent ≠ 0 :=
      Nat.ne_of_gt (Nat.mul_pos (by omega) (Nat.two_pow_pos _))
    have log : (x.mantissa * 2 ^ x.exponent).log2 = 52 + x.exponent := by
      rw [Nat.log2_eq_iff some, Nat.pow_add, show 52 + x.exponent + 1 = 53 + x.exponent by omega,
        Nat.pow_add]
      exact ⟨Nat.mul_le_mul_right _ normal, Nat.mul_lt_mul_of_pos_right bound (Nat.two_pow_pos _)⟩
    rw [Nat.pow_eq, log]
    omega

/-- A count of units that is a double is read as that double. -/
theorem ofRatio_units (x : Finite) : Double.ofRatio x.negative x.units 1 = .finite x := by
  have rounded : roundedDiv x.units (1 * Nat.pow 2 x.exponent) = x.mantissa := by
    rw [units, Nat.one_mul, roundedDiv_mul_self]
    exact Nat.two_pow_pos _
  simp only [Double.ofRatio, x.excess_units, rounded, dif_pos x.mantissa_lt, dif_pos x.exponent_le]

end Finite

/-! ### Decimal numbers -/

theorem length_toDigits_mul_pow {n : Nat} (some : n ≠ 0) (k : Nat) :
    (Nat.toDigits 10 (n * 10 ^ k)).length = (Nat.toDigits 10 n).length + k := by
  induction k with
  | zero => rw [Nat.pow_zero, Nat.mul_one, Nat.add_zero]
  | succ k ih =>
    have positive : 0 < n * 10 ^ k :=
      Nat.mul_pos (Nat.pos_of_ne_zero some) (Nat.pow_pos (by decide))
    have last := Nat.toDigits_append_toDigits (b := 10) (d := 0) (by decide) positive (by decide)
    rw [Nat.pow_succ, ← Nat.mul_assoc, Nat.mul_comm _ 10, ← Nat.add_zero (10 * _), ← last,
      List.length_append, ih, Nat.add_assoc]
    rfl

theorem lt_length_toDigits {n k : Nat} (least : 10 ^ k ≤ n) : k < (Nat.toDigits 10 n).length := by
  by_contra within
  cases k with
  | zero => exact within Nat.length_toDigits_pos
  | succ k =>
    have less := (Nat.length_toDigits_le_iff (by decide) k.succ_pos).mp (Nat.not_lt.mp within)
    exact Nat.not_le.mpr less least

theorem length_toDigits_le {n k : Nat} (positive : 0 < k) (most : n < 10 ^ k) :
    (Nat.toDigits 10 n).length ≤ k :=
  (Nat.length_toDigits_le_iff (by decide) positive).mpr most

namespace Double

/-- A decimal number in the range of the doubles is rounded as the quotient that it is. -/
theorem ofDecimal_eq_ofRatio (negative : Bool) {d : Decimal} (some : d.digits ≠ 0)
    (low : -330 ≤ d.exponent + (Nat.toDigits 10 d.digits).length)
    (high : d.exponent + (Nat.toDigits 10 d.digits).length ≤ 310) :
    ofDecimal negative d = ofRatio negative (d.digits * 10 ^ d.exponent.toNat * unitsInOne)
      (10 ^ (-d.exponent).toNat) := by
  have inside : ¬ (d.digits = 0 ∨ d.exponent + (Nat.toDigits 10 d.digits).length < -330) := by
    omega
  rw [ofDecimal]
  simp only [if_neg inside, if_neg (Int.not_lt.mpr high)]
  cases d.exponent with
  | ofNat e => simp
  | negSucc e => simp

/-- A unit of 2^-k is 5^k · 10^-k. -/
theorem ofDecimal_units (negative : Bool) {n k : Nat} (unit : unitsInOne = Nat.pow 2 k)
    (some : n ≠ 0) (low : -330 ≤ -(k : Int) + (Nat.toDigits 10 (n * Nat.pow 5 k)).length)
    (high : -(k : Int) + (Nat.toDigits 10 (n * Nat.pow 5 k)).length ≤ 310) :
    ofDecimal negative ⟨n * Nat.pow 5 k, -k⟩ = ofRatio negative n 1 := by
  have digits : n * Nat.pow 5 k ≠ 0 :=
    Nat.mul_ne_zero some (Nat.ne_of_gt (Nat.pow_pos (by decide)))
  have tens : Nat.pow 5 k * Nat.pow 2 k = 10 ^ k := (Nat.mul_pow 5 2 k).symm
  have whole : (-(k : Int)).toNat = 0 := by omega
  have places : (- -(k : Int)).toNat = k := by omega
  rw [ofDecimal_eq_ofRatio negative digits low high, whole, places, unit, Nat.pow_zero, Nat.mul_one,
    Nat.mul_assoc, tens]
  exact ofRatio_congr negative (Nat.pow_pos (by decide)) Nat.one_pos (Nat.mul_one _)

/-- Zeros at the end of the digits may be given as an exponent. -/
theorem ofDecimal_shift (negative : Bool) (digits : Nat) (exponent : Int) (k : Nat) :
    ofDecimal negative ⟨digits * 10 ^ k, exponent - k⟩ = ofDecimal negative ⟨digits, exponent⟩ := by
  by_cases none : digits = 0
  · simp [ofDecimal, none]
  · have some : digits * 10 ^ k ≠ 0 :=
      Nat.mul_ne_zero none (Nat.ne_of_gt (Nat.pow_pos (by decide)))
    have long := length_toDigits_mul_pow none k
    have size : exponent - k + (Nat.toDigits 10 (digits * 10 ^ k)).length =
        exponent + (Nat.toDigits 10 digits).length := by
      omega
    by_cases inside : -330 ≤ exponent + (Nat.toDigits 10 digits).length ∧
        exponent + (Nat.toDigits 10 digits).length ≤ 310
    · have balance : k + (exponent - k).toNat + (-exponent).toNat =
          exponent.toNat + (-(exponent - k)).toNat := by
        omega
      have powers := congrArg (10 ^ ·) balance
      simp only [Nat.pow_add] at powers
      rw [ofDecimal_eq_ofRatio negative some (size ▸ inside.1) (size ▸ inside.2),
        ofDecimal_eq_ofRatio negative none inside.1 inside.2]
      apply ofRatio_congr negative (Nat.pow_pos (by decide)) (Nat.pow_pos (by decide))
      calc digits * 10 ^ k * 10 ^ (exponent - k).toNat * unitsInOne * 10 ^ (-exponent).toNat
          = digits * unitsInOne *
              (10 ^ k * 10 ^ (exponent - k).toNat * 10 ^ (-exponent).toNat) := by ring
        _ = digits * unitsInOne * (10 ^ exponent.toNat * 10 ^ (-(exponent - k)).toNat) := by
          rw [powers]
        _ = digits * 10 ^ exponent.toNat * unitsInOne * 10 ^ (-(exponent - k)).toNat := by ring
    · -- Out of the range only the size counts, which is the same.
      rw [ofDecimal, ofDecimal]
      simp only [size, some, none, false_or]
      split
      · rfl
      · rw [if_pos (by omega), if_pos (by omega)]

end Double

/-! ### The shortest form -/

namespace Finite

/-- What holds of every hit, and of what is given otherwise, holds of the first hit. -/
theorem firstHit_of {α : Type} {search : Nat → Option α} {otherwise : α} {good : α → Prop}
    (hits : ∀ count hit, search count = some hit → good hit) (last : good otherwise)
    (fuel count : Nat) : good (firstHit search otherwise fuel count) := by
  induction fuel generalizing count with
  | zero => exact last
  | succ fuel ih =>
    rw [firstHit]
    cases found : search count with
    | none => exact ih (count + 1)
    | some hit => exact hits count hit found

variable (x : Finite)

theorem units_lt {k : Nat} (large : 53 + x.exponent ≤ k) : x.units < 2 ^ k := by
  have bound : x.mantissa < 2 ^ 53 := x.mantissa_lt
  calc x.units = x.mantissa * 2 ^ x.exponent := rfl
    _ < 2 ^ 53 * 2 ^ x.exponent := Nat.mul_lt_mul_of_pos_right bound (Nat.two_pow_pos _)
    _ = 2 ^ (53 + x.exponent) := (Nat.pow_add 2 53 x.exponent).symm
    _ ≤ 2 ^ k := Nat.pow_le_pow_right (by decide) large

theorem units_ne_zero (some : x.mantissa ≠ 0) : x.units ≠ 0 :=
  Nat.mul_ne_zero some (Nat.ne_of_gt (Nat.two_pow_pos _))

/-- The exact form has as many digits as a number in the range of the doubles may have. -/
theorem length_exact (some : x.mantissa ≠ 0) :
    743 < (Nat.toDigits 10 (x.units * Nat.pow 5 1074)).length ∧
      (Nat.toDigits 10 (x.units * Nat.pow 5 1074)).length ≤ 1384 := by
  have least : 10 ^ 743 ≤ Nat.pow 5 1074 := by decide +kernel
  have most : 2 ^ 2098 * Nat.pow 5 1074 ≤ 10 ^ 1384 := by decide +kernel
  have lower := Nat.pos_of_ne_zero (x.units_ne_zero some)
  have upper := x.units_lt (k := 2098) (by have := x.exponent_le; omega)
  -- From here on only the two bounds on the power count, not its digits.
  generalize Nat.pow 5 1074 = power at *
  have positive : 0 < power := Nat.lt_of_lt_of_le (Nat.pow_pos (by decide)) least
  have below := Nat.lt_of_lt_of_le (Nat.mul_lt_mul_of_pos_right upper positive) most
  exact ⟨lt_length_toDigits (Nat.le_trans least (Nat.le_mul_of_pos_left _ lower)),
    length_toDigits_le (by decide) below⟩

/-- The exact form is read back. -/
theorem readsBack_exact (some : x.mantissa ≠ 0) : x.readsBack x.exact := by
  obtain ⟨long, short⟩ := x.length_exact some
  have unit : unitsInOne = Nat.pow 2 1074 := by decide +kernel
  have read := Double.ofDecimal_units x.negative unit (x.units_ne_zero some) (by omega) (by omega)
  rw [readsBack, decide_eq_true_iff, ← x.ofRatio_units]
  exact read

/-- The shortest form of a finite double is read as the double. -/
theorem ofDecimal_shortest : Double.ofDecimal x.negative x.shortest = .finite x := by
  rw [shortest]
  split
  · rename_i none
    have zero : x = Finite.zero x.negative := by
      obtain ⟨negative, mantissa, exponent, _, normal, _⟩ := x
      subst none
      have least : exponent = 0 := normal.resolve_right (by decide)
      subst least
      rfl
    rw [Double.ofDecimal, if_pos (.inl rfl), ← zero]
  · rename_i some
    have good : x.readsBack (firstHit (fun count => (x.neighbours count).find? x.readsBack)
        x.exact 17 1) :=
      firstHit_of (fun _ _ found => List.find?_some found) (x.readsBack_exact some) 17 1
    exact of_decide_eq_true good

end Finite
end Upkeep
