import Mathlib.Data.List.Basic
import Upkeep.Text.Hex

/-! Texts taken apart: the characters of a kind as far as they go, and hexadecimal digits back into
the number as which they were written. -/
namespace Upkeep.Text

theorem takeWhile_exact {inside : Char → Bool} {word rest : List Char} (all : ∀ c ∈ word, inside c)
    (ends : ∀ c, rest.head? = some c → inside c = false) :
    (word ++ rest).takeWhile inside = word ∧ (word ++ rest).dropWhile inside = rest := by
  rw [List.takeWhile_append_of_pos all, List.dropWhile_append_of_pos all]
  cases rest with
  | nil => simp
  | cons c rest => simp [ends c rfl]

/-! ### Hexadecimal digits -/

theorem hexValue?_digitChar : ∀ n < 16, hexValue? n.digitChar = some n := by decide

theorem mem_toDigits {n : Nat} {c : Char} (member : c ∈ Nat.toDigits 16 n) :
    ∃ d < 16, c = d.digitChar := by
  induction n using Nat.strongRecOn with
  | ind n ih =>
    by_cases small : n < 16
    · rw [Nat.toDigits_of_lt_base small] at member
      exact ⟨n, small, List.mem_singleton.mp member⟩
    · rw [Nat.toDigits_of_base_le (by decide) (Nat.not_lt.mp small)] at member
      rcases List.mem_append.mp member with front | last
      · exact ih (n / 16) (by omega) front
      · exact ⟨n % 16, Nat.mod_lt n (by decide), List.mem_singleton.mp last⟩

theorem mem_hex {width code : Nat} {c : Char} (member : c ∈ hex width code) :
    ∃ d < 16, c = d.digitChar := by
  rw [hex] at member
  rcases List.mem_append.mp member with zero | digit
  · exact ⟨0, by decide, List.eq_of_mem_replicate zero⟩
  · exact mem_toDigits digit

theorem valueOf?_concat (base : Nat) (digit? : Char → Option Nat) (cs : List Char) (c : Char) :
    valueOf? base digit? (cs ++ [c]) =
      (valueOf? base digit? cs).bind fun value => (digit? c).map (value * base + ·) := by
  rw [valueOf?, List.foldl_append, ← valueOf?, List.foldl_cons, List.foldl_nil]
  cases valueOf? base digit? cs with
  | none => rfl
  | some value => cases digit? c <;> rfl

theorem valueOf?_toDigits (n : Nat) : valueOf? 16 hexValue? (Nat.toDigits 16 n) = some n := by
  induction n using Nat.strongRecOn with
  | ind n ih =>
    by_cases small : n < 16
    · rw [Nat.toDigits_of_lt_base small]
      simp [valueOf?, hexValue?_digitChar n small]
    · have digit := hexValue?_digitChar (n % 16) (Nat.mod_lt n (by decide))
      rw [Nat.toDigits_of_base_le (by decide) (Nat.not_lt.mp small), valueOf?_concat,
        ih (n / 16) (by omega), digit]
      simp only [Option.bind_some, Option.map_some, Option.some.injEq]
      omega

theorem valueOf?_zeros_append (k : Nat) (cs : List Char) :
    valueOf? 16 hexValue? (List.replicate k '0' ++ cs) = valueOf? 16 hexValue? cs := by
  induction k with
  | zero => rfl
  | succ k ih => exact ih

/-- Digits are read back, whatever zeros fill them up. -/
theorem valueOf?_hex (width code : Nat) : valueOf? 16 hexValue? (hex width code) = some code := by
  rw [hex, valueOf?_zeros_append, valueOf?_toDigits]

/-- Four digits are written of a UTF-16 unit, and they are read back. -/
theorem hex_unit {code : Nat} (unit : code < 0x10000) :
    ∃ a b c d, hex 4 code = [a, b, c, d] ∧ valueOf? 16 hexValue? [a, b, c, d] = some code := by
  have short := (Nat.length_toDigits_le_iff (b := 16) (k := 4) (by decide) (by decide)).mpr unit
  have long : (hex 4 code).length = 4 := by
    rw [hex, List.length_append, List.length_replicate]
    omega
  obtain ⟨a, b, c, d, written⟩ := List.length_eq_four.mp long
  exact ⟨a, b, c, d, written, written ▸ valueOf?_hex 4 code⟩

end Upkeep.Text
