import Upkeep.Proofs.Regex.Reading
import Upkeep.Proofs.Relabel.Action

/-! Rules that keep or drop by a pattern. Their patterns are matched against the whole of a text: an
alternative on the outside, a lazy quantifier or a newline at the end makes no part of it enough. -/
namespace Upkeep.Relabel
open Regex (Expr Letter Times mem_single repeated_optional)

namespace Rule
variable {rule : Rule}

open Classical in
/-- A rule whose regex is an expression counts a text exactly if the whole of it is in the language of
the expression. -/
theorem apply_fullMatch {e : Expr .choice} (written : (rule.regex.getD "(.*)").toList = e.text)
    (distinct : e.names.Nodup) (labels : Labels) :
    (Text.lowerCase (rule.action.getD "replace") = "keep" → rule.apply labels =
      .ok (if (rule.value labels).toList ∈ e.language then some labels else none)) ∧
    (Text.lowerCase (rule.action.getD "replace") = "drop" → rule.apply labels =
      .ok (if (rule.value labels).toList ∈ e.language then none else some labels)) ∧
    (Text.lowerCase (rule.action.getD "replace") = "labelkeep" → rule.apply labels =
      .ok (some (labels.filter fun label => label.1.toList ∈ e.language))) ∧
    (Text.lowerCase (rule.action.getD "replace") = "labeldrop" → rule.apply labels =
      .ok (some (labels.filter fun label => label.1.toList ∉ e.language))) := by
  obtain ⟨pattern, compiled, covers⟩ := e.isSome_matchStart distinct
  rw [← written] at compiled
  have counts : ∀ text, (pattern.matchStart text).isSome = decide (text ∈ e.language) := by
    intro text
    rw [Bool.eq_iff_iff, covers, decide_eq_true_iff]
  refine ⟨fun action => ?_, fun action => ?_, fun action => ?_, fun action => ?_⟩
  · simp only [rule.apply_keep action compiled, counts, decide_eq_true_iff]
  · simp only [rule.apply_drop action compiled, counts, decide_eq_true_iff]
  · simp only [rule.apply_labelkeep action compiled, counts]
  · simp only [rule.apply_labeldrop action compiled, counts, decide_not]

/-- The expression `a|ab??`, which prefers to match the first letter only. -/
def reluctant : Expr .choice :=
  let a := Expr.letter (.plain 'a' (by decide))
  let b := Expr.letter (.plain 'b' (by decide))
  .orElse (.andThen (.once a) .nothing)
    (.only (.andThen (.once a) (.andThen (.times b .optional false) .nothing)))

theorem mem_reluctant {text : List Char} :
    text ∈ reluctant.language ↔ text = ['a'] ∨ text = ['a', 'b'] := by
  simp only [reluctant, Expr.language, Letter.code, Times.least, Times.most, repeated_optional,
    mul_one, mul_add, Char.toNat_inj, Language.mem_add, Language.mem_mul, mem_single]
  constructor
  · rintro (⟨c, rfl, rfl⟩ | ⟨c, rfl, rfl⟩ | ⟨_, ⟨c, rfl, rfl⟩, _, ⟨d, rfl, rfl⟩, rfl⟩) <;> simp
  · rintro (rfl | rfl) <;> simp

def reluctantRule : Rule :=
  { blank with sourceLabels := some ["job"], action := some "keep", regex := some "a|ab??" }

theorem apply_fullMatch_reluctant :
    (reluctantRule.regex.getD "(.*)").toList = reluctant.text ∧ reluctant.names.Nodup ∧
      reluctantRule.apply [("job", "ab")] = .ok (some [("job", "ab")]) ∧
      reluctantRule.apply [("job", "ab\n")] = .ok none := by
  have written : (reluctantRule.regex.getD "(.*)").toList = reluctant.text := by decide
  have distinct : reluctant.names.Nodup := by decide
  have keeps (labels : Labels) := (apply_fullMatch written distinct labels).1 (by decide)
  refine ⟨written, distinct, ?_, ?_⟩
  · rw [keeps, if_pos (mem_reluctant.mpr (by decide))]
  · rw [keeps, if_neg (mem_reluctant.not.mpr (by decide))]

end Rule
end Upkeep.Relabel
