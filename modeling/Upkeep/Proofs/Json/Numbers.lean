import Upkeep.Json.Reader
import Upkeep.Json.Written
import Upkeep.Proofs.Number.Double
import Upkeep.Proofs.Text.Scanning

/-! Numbers read back. What is written of a number is read as the number, if the text behind it is
none that could go on a number. A decimal number is written positionally or with an exponent; the
reader sees digits and places behind a point, and both ways of writing come to the same decimal
number but for zeros at the end of its digits. -/
namespace Upkeep.Json.Reader

/-! ### Digits -/

theorem isDigit_toDigits (n : Nat) : ∀ c ∈ Nat.toDigits 10 n, isDigit c := fun _ member =>
  Nat.isDigit_of_mem_toDigits (by decide) (by decide) member

theorem isDigit_zeros (k : Nat) : ∀ c ∈ zeros k, isDigit c := by
  intro c member
  rw [List.eq_of_mem_replicate member]
  rfl

theorem natural_toDigits (n : Nat) : natural (Nat.toDigits 10 n) = n :=
  Nat.ofDigitChars_ten_toDigits

theorem natural_zeros_append (k : Nat) (digits : List Char) :
    natural (zeros k ++ digits) = natural digits := by
  change Nat.ofDigitChars 10 (zeros k ++ digits) 0 = _
  rw [Nat.ofDigitChars_append, zeros, Nat.ofDigitChars_replicate_zero, Nat.mul_zero]
  rfl

theorem natural_append_zeros (digits : List Char) (k : Nat) :
    natural (digits ++ zeros k) = natural digits * 10 ^ k := by
  change Nat.ofDigitChars 10 (digits ++ zeros k) 0 = _
  rw [Nat.ofDigitChars_append, zeros, Nat.ofDigitChars_replicate_zero, Nat.mul_comm]
  rfl

/-- What may stand behind a number: nothing, or what ends an item or a member. -/
def Closes (rest : List Char) : Prop := ∀ c, rest.head? = some c → c = ',' ∨ c = ']' ∨ c = '}'

theorem Closes.not_digit {rest : List Char} (closes : Closes rest) :
    ∀ c, rest.head? = some c → isDigit c = false := by
  intro c head
  rcases closes c head with rfl | rfl | rfl <;> rfl

/-! ### The parts of a number -/

section
variable {whole places rest tail : List Char} {power : Int}

theorem fraction_places (all : ∀ c ∈ places, isDigit c)
    (ends : ∀ c, rest.head? = some c → isDigit c = false) :
    fraction ('.' :: places ++ rest) = (places, rest) := by
  obtain ⟨taken, left⟩ := Text.takeWhile_exact all ends
  rw [List.cons_append, fraction, taken, left]

theorem Closes.fraction_eq (closes : Closes rest) : fraction rest = ([], rest) := by
  cases rest with
  | nil => rfl
  | cons c rest => rcases closes c rfl with rfl | rfl | rfl <;> rfl

/-- Digits alone are an integer. -/
theorem number_whole (negative : Bool) (digits : ∀ c ∈ whole, isDigit c) (some : whole ≠ [])
    (closes : Closes rest) :
    number negative (whole ++ rest) =
      .some (.int (if negative then -(natural whole : Int) else natural whole), rest) := by
  obtain ⟨taken, left⟩ := Text.takeWhile_exact digits closes.not_digit
  simp only [number, taken, left, closes.fraction_eq, List.isEmpty_eq_false_iff.mpr some]
  cases rest with
  | nil => rfl
  | cons c rest => rcases closes c rfl with rfl | rfl | rfl <;> rfl

/-- Digits with places behind a point are a double. -/
theorem number_places (negative : Bool) (digits : ∀ c ∈ whole, isDigit c) (some : whole ≠ [])
    (more : ∀ c ∈ places, isDigit c) (present : places ≠ []) (closes : Closes rest) :
    number negative (whole ++ '.' :: places ++ rest) =
      .some (.float (Double.ofDecimal negative ⟨natural (whole ++ places), -places.length⟩),
        rest) := by
  have point : ∀ c, ('.' :: places ++ rest).head? = .some c → isDigit c = false := by
    rintro c ⟨⟩
    rfl
  obtain ⟨taken, left⟩ := Text.takeWhile_exact digits point
  rw [List.append_assoc]
  simp only [number, taken, left, fraction_places more closes.not_digit,
    List.isEmpty_eq_false_iff.mpr some, List.isEmpty_eq_false_iff.mpr present, Int.zero_sub]
  cases rest with
  | nil => rfl
  | cons c rest => rcases closes c rfl with rfl | rfl | rfl <;> rfl

/-- Places behind a point, the point only if there are any. -/
def pointed (places : List Char) : List Char := if places.isEmpty then [] else '.' :: places

/-- Digits with an exponent are a double, with places or without. -/
theorem number_exponent (negative : Bool) (digits : ∀ c ∈ whole, isDigit c) (some : whole ≠ [])
    (more : ∀ c ∈ places, isDigit c) (read : exponent tail = .some (power, rest)) :
    number negative (whole ++ pointed places ++ 'e' :: tail) =
      .some (.float (Double.ofDecimal negative
        ⟨natural (whole ++ places), power - places.length⟩), rest) := by
  have split : (whole ++ pointed places ++ 'e' :: tail).takeWhile isDigit = whole ∧
      (whole ++ pointed places ++ 'e' :: tail).dropWhile isDigit =
        pointed places ++ 'e' :: tail := by
    rw [List.append_assoc]
    apply Text.takeWhile_exact digits
    cases places <;> rintro c ⟨⟩ <;> rfl
  have behind : fraction (pointed places ++ 'e' :: tail) = (places, 'e' :: tail) := by
    cases places with
    | nil => rfl
    | cons c others => exact fraction_places more (by rintro c ⟨⟩; rfl)
  simp only [number, split, behind, List.isEmpty_eq_false_iff.mpr some, read, Option.map_some]
  rfl

theorem exponentDigits_append {digits : List Char} (all : ∀ c ∈ digits, isDigit c)
    (some : digits ≠ []) (closes : Closes rest) :
    exponent.exponentDigits (digits ++ rest) = .some (natural digits, rest) := by
  obtain ⟨taken, left⟩ := Text.takeWhile_exact all closes.not_digit
  simp [exponent.exponentDigits, taken, left, some]

/-- An exponent is read with its sign, whatever zeros fill it up. -/
theorem exponent_written (e : Int) (fill : Nat) (closes : Closes rest) :
    exponent ((if e < 0 then '-' else '+') :: (zeros fill ++ Nat.toDigits 10 e.natAbs) ++ rest) =
      .some (e, rest) := by
  have all : ∀ c ∈ zeros fill ++ Nat.toDigits 10 e.natAbs, isDigit c := by
    intro c member
    rcases List.mem_append.mp member with zero | digit
    · exact isDigit_zeros fill c zero
    · exact isDigit_toDigits _ c digit
  have some : zeros fill ++ Nat.toDigits 10 e.natAbs ≠ [] :=
    List.append_ne_nil_of_right_ne_nil _ (List.ne_nil_of_length_pos Nat.length_toDigits_pos)
  have read := exponentDigits_append all some closes
  rw [natural_zeros_append, natural_toDigits] at read
  split
  · rw [List.cons_append, exponent, read, Option.map_some]
    simp only [Option.some.injEq, Prod.mk.injEq, and_true]
    omega
  · rw [List.cons_append, exponent, read, Option.map_some]
    simp only [Option.some.injEq, Prod.mk.injEq, and_true]
    omega

end

/-! ### Decimal numbers -/

/-- The digits that are kept are all but zeros at the end. -/
theorem withoutTrailingZeros_append {digits : List Char} (some : digits ≠ []) :
    ∃ k, digits = withoutTrailingZeros digits ++ zeros k := by
  obtain ⟨k, dropped⟩ : ∃ k, digits.reverse.takeWhile (· = '0') = zeros k :=
    ⟨_, List.eq_replicate_of_mem fun c member =>
      of_decide_eq_true (List.all_eq_true.mp List.all_takeWhile c member)⟩
  have whole : digits = (digits.reverse.dropWhile (· = '0')).reverse ++ zeros k := by
    rw [← List.reverse_inj, List.reverse_append, List.reverse_reverse, zeros,
      List.reverse_replicate, ← zeros, ← dropped, List.takeWhile_append_dropWhile]
  rw [withoutTrailingZeros]
  split
  · rename_i none
    rw [none, List.nil_append] at whole
    cases k with
    | zero => exact absurd whole some
    | succ k => exact ⟨k, whole⟩
  · exact ⟨k, whole⟩

theorem withoutTrailingZeros_ne_nil (digits : List Char) : withoutTrailingZeros digits ≠ [] := by
  rw [withoutTrailingZeros]
  split
  · exact List.cons_ne_nil _ _
  · rename_i kept
    exact kept

section
variable {digits rest : List Char} (all : ∀ c ∈ digits, isDigit c) (some : digits ≠ [])
  (closes : Closes rest)
include all some closes

/-- All digits behind the point. -/
theorem number_behind_point (negative : Bool) (k : Nat) :
    number negative (zeros 1 ++ '.' :: (zeros k ++ digits) ++ rest) =
      .some (.float (Double.ofDecimal negative
        ⟨natural digits, Int.negSucc k - digits.length + 1⟩), rest) := by
  have more : ∀ c ∈ zeros k ++ digits, isDigit c := by
    intro c member
    exact (List.mem_append.mp member).elim (isDigit_zeros k c) (all c)
  have read := number_places negative (isDigit_zeros 1) (List.cons_ne_nil _ _) more
    (List.append_ne_nil_of_right_ne_nil _ some) closes
  have power : (-((zeros k ++ digits).length : Int)) = Int.negSucc k - digits.length + 1 := by
    simp only [zeros, List.length_append, List.length_replicate]
    omega
  rwa [natural_zeros_append, natural_zeros_append, power] at read

/-- All digits in front of the point, filled up with zeros, and one zero behind it. -/
theorem number_before_point (negative : Bool) {k : Nat} (short : digits.length ≤ k + 1) :
    number negative (digits ++ zeros (k + 1 - digits.length) ++ '.' :: zeros 1 ++ rest) =
      .some (.float (Double.ofDecimal negative
        ⟨natural digits, (k : Int) - digits.length + 1⟩), rest) := by
  have filled : ∀ c ∈ digits ++ zeros (k + 1 - digits.length), isDigit c := by
    intro c member
    exact (List.mem_append.mp member).elim (all c) (isDigit_zeros _ c)
  have read := number_places negative filled (List.append_ne_nil_of_left_ne_nil some _)
    (isDigit_zeros 1) (List.cons_ne_nil _ _) closes
  have value : natural (digits ++ zeros (k + 1 - digits.length) ++ zeros 1) =
      natural digits * 10 ^ (k + 2 - digits.length) := by
    rw [natural_append_zeros, natural_append_zeros, Nat.mul_assoc, ← Nat.pow_add]
    congr 2
    omega
  have shift := Double.ofDecimal_shift negative (natural digits) ((k : Int) - digits.length + 1)
    (k + 2 - digits.length)
  have power : (k : Int) - digits.length + 1 - (k + 2 - digits.length : Nat) = -1 := by
    omega
  rw [power] at shift
  rw [value] at read
  rw [← shift]
  exact read

/-- The point among the digits. -/
theorem number_around_point (negative : Bool) {k : Nat} (long : ¬ digits.length ≤ k + 1) :
    number negative (digits.take (k + 1) ++ '.' :: digits.drop (k + 1) ++ rest) =
      .some (.float (Double.ofDecimal negative
        ⟨natural digits, (k : Int) - digits.length + 1⟩), rest) := by
  have front : digits.take (k + 1) ≠ [] := by
    rw [Ne, List.take_eq_nil_iff]
    simp [some]
  have read := number_places negative (fun c member => all c (List.mem_of_mem_take member)) front
    (fun c member => all c (List.mem_of_mem_drop member)) (mt List.drop_eq_nil_iff.mp long) closes
  have power : (-((digits.drop (k + 1)).length : Int)) = (k : Int) - digits.length + 1 := by
    rw [List.length_drop]
    omega
  rwa [List.take_append_drop, power] at read

/-- A positional number is read as its digits with the power of ten of the last one. -/
theorem number_positional (negative : Bool) (leading : Int) :
    number negative (positional digits leading ++ rest) =
      .some (.float (Double.ofDecimal negative
        ⟨natural digits, leading - digits.length + 1⟩), rest) := by
  cases leading with
  | negSucc k => exact number_behind_point all some closes negative k
  | ofNat k =>
    rw [positional]
    by_cases short : digits.length ≤ k + 1
    · rw [List.take_of_length_le short, List.drop_of_length_le short]
      exact number_before_point all some closes negative short
    · have full : k + 1 - (digits.take (k + 1)).length = 0 := by
        rw [List.length_take]
        omega
      have present : (digits.drop (k + 1)).isEmpty = false :=
        List.isEmpty_eq_false_iff.mpr (mt List.drop_eq_nil_iff.mp short)
      simp only [full, present, zeros, List.replicate_zero, List.append_nil]
      exact number_around_point all some closes negative short

/-- A number in scientific notation is read as its digits with the power of ten of the last one. -/
theorem number_scientific (negative : Bool) (width : Nat) (leading : Int) :
    number negative (scientific width digits leading ++ rest) =
      .some (.float (Double.ofDecimal negative
        ⟨natural digits, leading - digits.length + 1⟩), rest) := by
  have front : digits.take 1 ≠ [] := by
    rw [Ne, List.take_eq_nil_iff]
    simp [some]
  have read := number_exponent negative (fun c member => all c (List.mem_of_mem_take member)) front
    (fun c member => all c (List.mem_of_mem_drop (i := 1) member))
    (exponent_written leading (width - (Nat.toDigits 10 leading.natAbs).length) closes)
  have power : leading - ((digits.drop 1).length : Int) = leading - digits.length + 1 := by
    have positive := List.length_pos_iff.mpr some
    rw [List.length_drop]
    omega
  rw [List.take_append_drop, power] at read
  rw [scientific, ← read]
  simp only [pointed, List.append_assoc, List.cons_append]

end

/-- What is written of a decimal number is read as the number. -/
theorem number_magnitude (f : Format) (d : Decimal) (negative : Bool) {rest : List Char}
    (closes : Closes rest) :
    number negative (f.magnitude d ++ rest) =
      some (.float (Double.ofDecimal negative d), rest) := by
  have some : Nat.toDigits 10 d.digits ≠ [] := List.ne_nil_of_length_pos Nat.length_toDigits_pos
  obtain ⟨k, split⟩ := withoutTrailingZeros_append some
  have present := withoutTrailingZeros_ne_nil (Nat.toDigits 10 d.digits)
  have all : ∀ c ∈ withoutTrailingZeros (Nat.toDigits 10 d.digits), isDigit c := by
    intro c member
    apply isDigit_toDigits d.digits c
    rw [split]
    exact List.mem_append_left _ member
  have digits : natural (withoutTrailingZeros (Nat.toDigits 10 d.digits)) * 10 ^ k = d.digits := by
    rw [← natural_append_zeros, ← split, natural_toDigits]
  have long := congrArg List.length split
  rw [List.length_append, zeros, List.length_replicate] at long
  rw [Format.magnitude]
  generalize withoutTrailingZeros (Nat.toDigits 10 d.digits) = kept at *
  have shift := Double.ofDecimal_shift negative (natural kept) (d.exponent + k) k
  rw [digits, Int.add_sub_cancel] at shift
  have power : d.exponent + (Nat.toDigits 10 d.digits).length - 1 - kept.length + 1 =
      d.exponent + k := by
    omega
  split
  · rw [number_positional all present closes, power, ← shift]
  · rw [number_scientific all present closes, power, ← shift]

end Upkeep.Json.Reader
