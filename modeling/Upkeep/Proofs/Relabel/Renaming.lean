import Upkeep.Proofs.Regex.Anchoring
import Upkeep.Proofs.Relabel.Action

/-! Labels that are copied to other names. All labels are read before the first one is written, so what
a rule writes is a list of entries that its labels give, and each name has the value of the last label
that is copied to it. No label goes, and new ones stand behind the old ones. -/
namespace Upkeep.Relabel
open Regex (Compiled Confined compile compileAnchored confined_of_compile)

/-- A name matches, and what the template makes of the match is a new name. -/
def Renames (pattern : Compiled) (template name new : String) : Prop :=
  ∃ m, pattern.matchStart name.toList = some m ∧ expanded template m = .ok new ∧ new ≠ ""

/-- No two labels get the same new name. -/
def Apart (pattern : Compiled) (template : String) (labels : Labels) : Prop :=
  ∀ first ∈ labels.keys, ∀ second ∈ labels.keys, ∀ new,
    Renames pattern template first new → Renames pattern template second new → first = second

/-- The template fails at a name that matches. -/
def FailsAt (pattern : Compiled) (template name : String) (error : RuleError) : Prop :=
  ∃ m, pattern.matchStart name.toList = some m ∧ expanded template m = .error error

/-- The new name that a label gets, if its name matches and the template makes one of the match. -/
def newName? (pattern : Compiled) (template name : String) : Option String :=
  match pattern.matchStart name.toList with
  | none => none
  | some m =>
    match expanded template m with
    | .ok new => if new = "" then none else some new
    | .error _ => none

/-- What is written, label by label. -/
def copies (pattern : Compiled) (template : String) (labels : Labels) : List (String × String) :=
  labels.filterMap fun label => (newName? pattern template label.1).map fun new => (new, label.2)

section
variable {pattern : Compiled} {template : String} {entries onto result : Labels}

theorem newName?_eq_some_iff {name new : String} :
    newName? pattern template name = some new ↔ Renames pattern template name new := by
  rw [newName?, Renames]
  cases pattern.matchStart name.toList with
  | none => simp
  | some m =>
    cases filled : expanded template m with
    | error error => simp [filled]
    | ok text =>
      by_cases empty : text = ""
      · simp [filled, empty]
      · simp only [filled, if_neg empty, Option.some.injEq, exists_eq_left', Except.ok.injEq]
        exact ⟨fun same => ⟨same, same ▸ empty⟩, fun both => both.1⟩

theorem newName?_eq_none_iff {name : String} :
    newName? pattern template name = none ↔ ∀ new, ¬ Renames pattern template name new := by
  rw [Option.eq_none_iff_forall_ne_some]
  exact forall_congr' fun new => not_congr newName?_eq_some_iff

/-- What becomes of one label: it is copied, or it ends the rule, or it is passed over. -/
theorem mapNames_cons (pattern : Compiled) (template name : String) :
    (∃ new, Renames pattern template name new ∧ ∀ value rest onto,
      mapNames pattern template ((name, value) :: rest) onto =
        mapNames pattern template rest (onto.insert new value)) ∨
    (∃ error, FailsAt pattern template name error ∧ ∀ value rest onto,
      mapNames pattern template ((name, value) :: rest) onto = .error error) ∨
    ((∀ new, ¬ Renames pattern template name new) ∧
      (∀ error, ¬ FailsAt pattern template name error) ∧ ∀ value rest onto,
      mapNames pattern template ((name, value) :: rest) onto =
        mapNames pattern template rest onto) := by
  cases found : pattern.matchStart name.toList with
  | none =>
    refine .inr (.inr ⟨?_, ?_, fun value rest onto => by rw [mapNames, found]⟩)
    · rintro new ⟨m, matched, _⟩
      rw [found] at matched
      cases matched
    · rintro error ⟨m, matched, _⟩
      rw [found] at matched
      cases matched
  | some m =>
    cases filled : expanded template m with
    | error error =>
      exact .inr (.inl ⟨error, ⟨m, found, filled⟩, fun value rest onto => by
        rw [mapNames, found]
        simp only [filled]⟩)
    | ok new =>
      by_cases empty : new = ""
      · subst empty
        refine .inr (.inr ⟨?_, ?_, fun value rest onto => by
          rw [mapNames, found]
          simp only [filled]⟩)
        · rintro new ⟨n, matched, named, some⟩
          obtain rfl := Option.some.inj (found.symm.trans matched)
          exact some (Except.ok.inj (named.symm.trans filled))
        · rintro error ⟨n, matched, failed⟩
          obtain rfl := Option.some.inj (found.symm.trans matched)
          rw [filled] at failed
          cases failed
      · exact .inl ⟨new, ⟨m, found, filled, empty⟩, fun value rest onto => by
          rw [mapNames, found]
          simp only [filled]⟩

theorem Renames.sound {name new : String} (renames : Renames pattern template name new)
    (error : RuleError) : ¬ FailsAt pattern template name error := by
  obtain ⟨m, found, filled, _⟩ := renames
  rintro ⟨n, matched, failed⟩
  rw [expanded_error_congr failed m] at filled
  cases filled

theorem mapNames_eq_error_iff (error : RuleError) :
    mapNames pattern template entries onto = .error error ↔
      ∃ entry ∈ entries, FailsAt pattern template entry.1 error := by
  induction entries generalizing onto with
  | nil => simp [mapNames]
  | cons entry rest ih =>
    obtain ⟨name, value⟩ := entry
    rw [List.exists_mem_cons_iff]
    rcases mapNames_cons pattern template name with
      ⟨new, renames, step⟩ | ⟨other, ⟨m, found, failed⟩, step⟩ | ⟨_, sound, step⟩
    · rw [step, ih]
      simp [renames.sound error]
    · rw [step]
      constructor
      · rintro ⟨⟩
        exact .inl ⟨m, found, failed⟩
      · rintro (⟨n, matched, failed'⟩ | ⟨entry, member, n, matched, failed'⟩) <;>
          exact congrArg Except.error
            (Except.error.inj (failed.symm.trans (expanded_error_congr failed' m)))
    · rw [step, ih]
      simp [sound]

/-- What comes out has been written in one go: nothing that is written is read. -/
theorem mapNames_eq_ok_iff :
    mapNames pattern template entries onto = .ok result ↔
      (∀ entry ∈ entries, ∀ error, ¬ FailsAt pattern template entry.1 error) ∧
        result = onto.insertAll (copies pattern template entries) := by
  induction entries generalizing onto with
  | nil => simp [mapNames, copies, Table.insertAll, eq_comm]
  | cons entry rest ih =>
    obtain ⟨name, value⟩ := entry
    rw [List.forall_mem_cons, copies, List.filterMap_cons]
    rcases mapNames_cons pattern template name with
      ⟨new, renames, step⟩ | ⟨error, fails, step⟩ | ⟨never, sound, step⟩
    · rw [step, ih, newName?_eq_some_iff.mpr renames]
      exact and_congr_left fun _ => (and_iff_right renames.sound).symm
    · rw [step]
      constructor
      · rintro ⟨⟩
      · rintro ⟨⟨sound, _⟩, _⟩
        exact absurd fails (sound error)
    · rw [step, ih, newName?_eq_none_iff.mpr never]
      exact and_congr_left fun _ => (and_iff_right sound).symm

theorem mem_copies_iff {entry : String × String} : entry ∈ copies pattern template entries ↔
    ∃ label ∈ entries, Renames pattern template label.1 entry.1 ∧ entry.2 = label.2 := by
  simp only [copies, List.mem_filterMap, Option.map_eq_some_iff]
  constructor
  · rintro ⟨label, member, new, renames, rfl⟩
    exact ⟨label, member, newName?_eq_some_iff.mp renames, rfl⟩
  · rintro ⟨label, member, renames, same⟩
    exact ⟨label, member, entry.1, newName?_eq_some_iff.mpr renames, Prod.ext rfl same.symm⟩

theorem keys_copies : (copies pattern template entries).map Prod.fst =
    entries.keys.filterMap (newName? pattern template) := by
  simp [copies, Table.keys, List.map_filterMap, List.filterMap_map, Function.comp_def]

/-- The labels that are copied to a name. -/
theorem copies_to (pattern : Compiled) (template : String) (entries : Labels) (name : String) :
    ((copies pattern template entries).filter fun entry => entry.1 = name).map Prod.snd =
      (entries.filter fun label => newName? pattern template label.1 = some name).map Prod.snd := by
  induction entries with
  | nil => rfl
  | cons label rest ih =>
    rw [copies, List.filterMap_cons, List.filter_cons]
    cases given : newName? pattern template label.1 with
    | none => simpa [copies] using ih
    | some new => by_cases same : new = name <;> simpa [copies, same] using ih

/-- Each name has the value of the last label that is copied to it, or else the one it had. -/
theorem get?_mapNames_last (mapped : mapNames pattern template entries onto = .ok result)
    (name : String) : result.get? name =
      ((entries.filter fun label => newName? pattern template label.1 = some name).getLast?.map
        Prod.snd).or (onto.get? name) := by
  rw [(mapNames_eq_ok_iff.mp mapped).2, Table.get?_insertAll_last, ← List.getLast?_map,
    ← List.getLast?_map, copies_to]

end

/-! ### Rules that copy labels -/

namespace Rule

/-- A rule that copies labels keeps the target and every label of it, unless its template fails at a name
that matches. Each name then has the value that the last label copied to it had before, or else its own;
the old names stay where they are, and the new ones follow in the order in which they are first written.
The names that match do so as a whole if the regex is a pattern by itself, or if it keeps to the brackets
that it is put into. -/
theorem copies_simultaneously (rule : Rule) {pattern : Compiled} {labels : Labels}
    (distinct : labels.Distinct)
    (action : Text.lowerCase (rule.action.getD "replace") = "labelmap")
    (compiled : compileAnchored (rule.regex.getD "(.*)").toList = .ok pattern)
    (sound : ∀ label ∈ labels, ∀ error,
      ¬ FailsAt pattern (rule.replacement.getD "$1") label.1 error) :
    (∃ result, rule.apply labels = .ok (some result) ∧ result.Distinct ∧
      (∀ name, result.get? name = ((labels.filter fun label =>
        newName? pattern (rule.replacement.getD "$1") label.1 = some name).getLast?.map
          Prod.snd).or (labels.get? name)) ∧
      result.keys = labels.keys ++ ((labels.keys.filterMap
        (newName? pattern (rule.replacement.getD "$1"))).filter (· ∉ labels.keys)).eraseDups) ∧
    ((Confined (rule.regex.getD "(.*)").toList ∨
        ∃ own, compile (rule.regex.getD "(.*)").toList = .ok own) →
      ∀ name m, pattern.matchStart name = some m → m.whole = name ∧ m.rest = []) := by
  have mapped : mapNames pattern (rule.replacement.getD "$1") labels labels =
      .ok (labels.insertAll (copies pattern (rule.replacement.getD "$1") labels)) :=
    mapNames_eq_ok_iff.mpr ⟨sound, rfl⟩
  refine ⟨⟨_, ?_, distinct.insertAll _, get?_mapNames_last mapped, ?_⟩, ?_⟩
  · rw [rule.apply_labelmap action compiled, mapped]
    rfl
  · rw [Table.keys_insertAll, keys_copies]
  · intro keeps name m found
    have confined : Confined (rule.regex.getD "(.*)").toList := by
      rcases keeps with confined | ⟨own, alone⟩
      · exact confined
      · exact confined_of_compile alone compiled
    exact confined.matchStart_whole compiled found

/-- Cuts off a letter in front of a name. -/
def cutRule : Rule := { blank with action := some "labelmap", regex := some "a(.*)" }

/-- Labels that are cut to each other's names. -/
def chained : Labels := [("ab", "1"), ("aab", "2"), ("b", "0"), ("ac", "3")]

theorem copies_simultaneously_chained :
    chained.Distinct ∧ Text.lowerCase (cutRule.action.getD "replace") = "labelmap" ∧
    ∃ pattern, compileAnchored (cutRule.regex.getD "(.*)").toList = .ok pattern ∧
      (∀ label ∈ chained, ∀ error,
        ¬ FailsAt pattern (cutRule.replacement.getD "$1") label.1 error) ∧
      ∃ result, cutRule.apply chained = .ok (some result) ∧
        result.get? "b" = some "1" ∧ result.get? "ab" = some "2" ∧
        result.keys = ["ab", "aab", "b", "ac", "c"] ∧
        ∀ name m, pattern.matchStart name = some m → m.whole = name ∧ m.rest = [] := by
  have distinct : chained.Distinct := show chained.keys.Nodup by decide
  have action : Text.lowerCase (cutRule.action.getD "replace") = "labelmap" := by decide
  obtain ⟨pattern, compiled⟩ : ∃ pattern,
      compileAnchored (cutRule.regex.getD "(.*)").toList = .ok pattern := ⟨_, rfl⟩
  have sound : ∀ label ∈ chained, ∀ error,
      ¬ FailsAt pattern (cutRule.replacement.getD "$1") label.1 error := by
    rintro label _ error ⟨m, _, failed⟩
    cases (expanded_first m).symm.trans failed
  obtain ⟨⟨result, applied, _, looks, keys⟩, whole⟩ :=
    cutRule.copies_simultaneously distinct action compiled sound
  obtain rfl := Except.ok.inj (compiled.symm.trans rfl)
  refine ⟨distinct, action, _, compiled, sound, result, applied, ?_, ?_, ?_, whole (.inr ⟨_, rfl⟩)⟩
  · rw [looks]
    decide +kernel
  · rw [looks]
    decide +kernel
  · rw [keys]
    decide +kernel

/-- Gives every label that matches the same name; the regex closes brackets that it has not opened. -/
def looseRule : Rule :=
  { blank with action := some "labelmap", regex := some "a)|(?:b", replacement := some "x" }

/-- A name is copied although only its first letter matches. -/
theorem copies_beginning : ∃ pattern m,
    compileAnchored (looseRule.regex.getD "(.*)").toList = .ok pattern ∧
    pattern.matchStart "abc".toList = some m ∧ m.whole = "a".toList ∧ m.rest = "bc".toList ∧
    looseRule.apply [("abc", "1")] = .ok (some [("abc", "1"), ("x", "1")]) :=
  ⟨_, _, rfl, rfl, rfl, rfl, by decide +kernel⟩

end Rule
end Upkeep.Relabel
