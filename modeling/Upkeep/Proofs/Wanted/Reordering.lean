import Upkeep.Proofs.Relabel.Reordering
import Upkeep.Proofs.Wanted.Discovered

/-! The rules for targets take no notice of the order of labels. The one among them that renames labels
cuts off a text in front of their names, so no two of them get the same new name. -/
namespace Upkeep.Wanted
open Relabel

/-- Two names are the same if they are the same behind the text that is cut off. -/
theorem apart_podLabelRule {pattern : Regex.Compiled}
    (compiled : Regex.compileAnchored (podLabelRule.regex.getD "(.*)").toList = .ok pattern)
    (labels : Labels) : Apart pattern (podLabelRule.replacement.getD "$1") labels := by
  have same := Except.ok.inj (compile_podLabelRule.symm.trans compiled)
  have behind : ∀ name new, Renames pattern "$1" name new → name = podLabel ++ new := by
    rintro name new ⟨m, found, filled, _⟩
    rw [← same] at found
    rcases Regex.Compiled.matchStart_letters_line podLabel.toList name.toList with
      ⟨n, matched, _, split⟩ | ⟨missed, _⟩
    · obtain rfl := Option.some.inj (found.symm.trans matched)
      rw [expanded_first] at filled
      rw [← Except.ok.inj filled]
      exact String.toList_inj.mp (by rw [split, String.toList_append, String.toList_ofList])
    · rw [found] at missed
      cases missed
  intro first _ second _ new one other
  rw [behind first new one, behind second new other]

theorem unambiguous_targetRules (labels : Labels) : Unambiguous targetRules labels := by
  refine unambiguous_of_forall (fun rule member labels => ?_) labels
  simp only [targetRules, List.mem_cons, List.not_mem_nil, or_false] at member
  obtain rfl | rfl | rfl | rfl | rfl := member
  · exact fun labelmap => absurd labelmap (by decide)
  · exact fun labelmap => absurd labelmap (by decide)
  · exact fun _ _ compiled => apart_podLabelRule compiled labels
  · exact fun labelmap => absurd labelmap (by decide)
  · exact fun labelmap => absurd labelmap (by decide)

theorem relabel_targetRules_ok {labels : Labels} (distinct : labels.Distinct) :
    ∃ verdict, relabel labels targetRules = .ok verdict := by
  by_cases kept : Admits (present labels).get?
  · obtain ⟨result, ran, _⟩ := relabel_of_admits distinct kept
    exact ⟨_, ran⟩
  · exact ⟨_, relabel_of_not_admits kept⟩

/-- The same labels in another order. By the rules for targets both are dropped, or both are kept
with the same labels. By any other rules they end alike too, with labels, with a drop or with an
error, if no rule that renames labels finds two of them that it gives the same new name. -/
theorem relabel_reordered {labels others : Labels} (distinct : labels.Distinct)
    (reordered : labels.Perm others) :
    (∃ one other, relabel labels targetRules = .ok one ∧ relabel others targetRules = .ok other ∧
      EndsAlike (.ok one) (.ok other)) ∧
    ∀ rules, Unambiguous rules (present labels) →
      EndsAlike (relabel labels rules) (relabel others rules) := by
  have same := Same.of_perm distinct reordered
  have alike : ∀ rules, Unambiguous rules (present labels) →
      EndsAlike (relabel labels rules) (relabel others rules) :=
    fun rules clear => (same.filter _).applyAll clear
  obtain ⟨one, first⟩ := relabel_targetRules_ok same.left
  obtain ⟨other, second⟩ := relabel_targetRules_ok same.right
  refine ⟨⟨one, other, first, second, ?_⟩, alike⟩
  have ends := alike targetRules (unambiguous_targetRules _)
  rwa [first, second] at ends

/-- A target whose labels come in the opposite order, by the rules for targets and by the rule that
renames labels alone. -/
theorem relabel_reordered_discovered :
    discovered.Distinct ∧ discovered.Perm discovered.reverse ∧
      Unambiguous [podLabelRule] (present discovered) ∧
      EndsAlike (relabel discovered [podLabelRule]) (relabel discovered.reverse [podLabelRule]) ∧
      ∃ one other, relabel discovered targetRules = .ok (.kept one) ∧
        relabel discovered.reverse targetRules = .ok (.kept other) ∧ Same one other := by
  have reordered : discovered.Perm discovered.reverse := (List.reverse_perm discovered).symm
  have clear : Unambiguous [podLabelRule] (present discovered) :=
    ⟨fun _ _ compiled => apart_podLabelRule compiled _, fun _ _ => trivial⟩
  obtain ⟨⟨one, other, first, second, alike⟩, ends⟩ :=
    relabel_reordered distinct_discovered reordered
  obtain ⟨kept, ran, _⟩ := relabel_of_admits distinct_discovered
    (show Admits (present discovered).get? from ⟨"docker.io", by decide, by decide⟩)
  obtain rfl := Except.ok.inj (first.symm.trans ran)
  cases alike with
  | kept same =>
    exact ⟨distinct_discovered, reordered, clear, ends _ clear, kept, _, ran, second, same⟩

end Upkeep.Wanted
