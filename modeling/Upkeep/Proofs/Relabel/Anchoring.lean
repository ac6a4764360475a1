import Upkeep.Proofs.Regex.Anchoring
import Upkeep.Proofs.Relabel.Action

/-! What a rule counts as a match. The pattern of a rule is meant to cover the whole of a value or of a
name. It does for every regex that is a pattern by itself, and as long as no bar of the regex gets out
of the brackets that are put around it. -/
namespace Upkeep.Relabel
open Regex (Compiled Confined compile compileAnchored confined_of_compile)

namespace Rule

/-- A rule whose regex is accepted counts whole texts only, from the first character to the last one, if
the regex is a pattern by itself or if it keeps to the brackets that it is put into. -/
theorem matches_whole (rule : Rule) (labels : Labels)
    (accepted : ∀ error, rule.apply labels ≠ .error (.pattern error))
    (keeps : Confined (rule.regex.getD "(.*)").toList ∨
      ∃ own, compile (rule.regex.getD "(.*)").toList = .ok own) :
    ∃ pattern, compileAnchored (rule.regex.getD "(.*)").toList = .ok pattern ∧
      ∀ text m, pattern.matchStart text = some m → m.whole = text ∧ m.rest = [] := by
  cases compiled : compileAnchored (rule.regex.getD "(.*)").toList with
  | error error => exact absurd (rule.apply_invalid compiled labels) (accepted error)
  | ok pattern =>
    have confined : Confined (rule.regex.getD "(.*)").toList := by
      rcases keeps with confined | ⟨own, alone⟩
      · exact confined
      · exact confined_of_compile alone compiled
    exact ⟨pattern, rfl, fun text m found => confined.matchStart_whole compiled found⟩

/-- A rule whose regex is no pattern by itself: it closes brackets that it has not opened. -/
def splitRule : Rule :=
  { blank with sourceLabels := some ["job"], action := some "keep", regex := some "a)(?:b" }

theorem matches_whole_split :
    (∀ error, splitRule.apply [("job", "ab")] ≠ .error (.pattern error)) ∧
    compile (splitRule.regex.getD "(.*)").toList = .error .invalid ∧
    Confined (splitRule.regex.getD "(.*)").toList ∧
    ∃ pattern m, compileAnchored (splitRule.regex.getD "(.*)").toList = .ok pattern ∧
      pattern.matchStart "ab".toList = some m ∧ m.whole = "ab".toList ∧ m.rest = [] := by
  have keeps : splitRule.apply [("job", "ab")] = .ok (some [("job", "ab")]) := by decide +kernel
  have accepted : ∀ error, splitRule.apply [("job", "ab")] ≠ .error (.pattern error) := by
    simp [keeps]
  have confined : Confined (splitRule.regex.getD "(.*)").toList := by decide +kernel
  obtain ⟨pattern, compiled, whole⟩ := matches_whole splitRule _ accepted (.inl confined)
  have value : splitRule.value [("job", "ab")] = "ab" := by decide
  rw [apply_keep splitRule (by decide) compiled, value] at keeps
  have counted : (pattern.matchStart "ab".toList).isSome := by
    by_contra other
    rw [if_neg other] at keeps
    simp at keeps
  obtain ⟨m, found⟩ := Option.isSome_iff_exists.mp counted
  exact ⟨accepted, rfl, confined, pattern, m, compiled, found, whole _ m found⟩

/-- A bar behind the brackets leaves what is in front of it without an end. -/
def brokenRule : Rule :=
  { blank with sourceLabels := some ["job"], action := some "keep", regex := some "a)|(?:b" }

theorem matches_beginning : ∃ pattern m,
    brokenRule.apply [("job", "abc")] = .ok (some [("job", "abc")]) ∧
    compileAnchored (brokenRule.regex.getD "(.*)").toList = .ok pattern ∧
    pattern.matchStart (brokenRule.value [("job", "abc")]).toList = some m ∧
    m.whole = "a".toList ∧ m.rest = "bc".toList :=
  ⟨_, _, by decide +kernel, rfl, rfl, rfl, rfl⟩

end Rule
end Upkeep.Relabel
