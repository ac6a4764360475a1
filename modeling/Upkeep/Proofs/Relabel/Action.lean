import Upkeep.Proofs.Regex.Lines
import Upkeep.Proofs.Relabel.Template
import Upkeep.Proofs.Table
import Upkeep.Relabel.Rule

/-! What the actions of a rule do. A template without a dollar sign stands for itself; one that
refers to groups is filled piece by piece. A rule that renames labels reads all of them before it
writes any. -/
namespace Upkeep.Relabel
open Regex (Match Compiled IsLine)

/-! ### Templates -/

theorem expanded_of_pieces {template : String} {parts : List Piece} {m : Match} {text : List Char}
    (cut : pieces template.toList = parts) (filled : fill m parts = .ok text) :
    expanded template m = .ok (String.ofList text) := by
  rw [expanded, expand, cut, filled]

/-- A template without references stands for itself. -/
theorem expanded_of_plain {template : String} (plain : '$' ∉ template.toList) (m : Match) :
    expanded template m = .ok template := by
  have filled := expand_literal plain m []
  rw [List.append_nil, expand_nil] at filled
  simp [expanded, filled, Except.map]

/-- The template that is the first group. -/
theorem expanded_first (m : Match) : expanded "$1" m = .ok (String.ofList (m.numbered 1)) := by
  have cut : pieces "$1".toList = [.reference ['1']] := by decide
  have filled : fill m [.reference ['1']] = .ok (m.numbered 1 ++ []) := rfl
  rw [List.append_nil] at filled
  exact expanded_of_pieces cut filled

/-- A text, the first group, a colon, the second group, and a text. -/
def aroundGroups (front back : List Char) : List Piece :=
  front.map Piece.literal ++
    (Piece.reference ['1'] :: Piece.literal ':' :: Piece.reference ['2'] :: back.map Piece.literal)

theorem fill_aroundGroups (m : Match) (front back : List Char) :
    fill m (aroundGroups front back) =
      .ok (front ++ (m.numbered 1 ++ (':' :: (m.numbered 2 ++ back)))) := by
  have first : resolve m ['1'] = .ok (m.numbered 1) := rfl
  have second : resolve m ['2'] = .ok (m.numbered 2) := rfl
  have last := fill_literals m back []
  rw [List.append_nil, fill] at last
  rw [aroundGroups, fill_literals, fill, first, fill, fill, second, last]
  simp [Except.map]

theorem expanded_aroundGroups {template front back : String}
    (cut : pieces template.toList = aroundGroups front.toList back.toList) (m : Match) :
    expanded template m = .ok (front ++ String.ofList (m.numbered 1) ++ ":" ++
      String.ofList (m.numbered 2) ++ back) := by
  rw [expanded_of_pieces cut (fill_aroundGroups m _ _)]
  simp [String.ofList_append, String.append_assoc]

/-- A template fails on its own account, whatever has matched. -/
theorem expanded_error_congr {template : String} {m : Match} {error : RuleError}
    (failed : expanded template m = .error error) (n : Match) :
    expanded template n = .error error := by
  rw [expanded] at failed ⊢
  cases filled : expand template.toList m with
  | ok text =>
    rw [filled] at failed
    cases failed
  | error bad =>
    rw [filled] at failed
    have fault := (fill_eq_error_iff m (pieces template.toList) bad).mp filled
    rw [expand, (fill_eq_error_iff n _ bad).mpr fault]
    exact failed

/-! ### Actions -/

namespace Rule
variable {pattern : Compiled}

theorem apply_keep (rule : Rule) (action : Text.lowerCase (rule.action.getD "replace") = "keep")
    (compiled : Regex.compileAnchored (rule.regex.getD "(.*)").toList = .ok pattern)
    (labels : Labels) :
    rule.apply labels =
      .ok (if (pattern.matchStart (rule.value labels).toList).isSome then some labels
        else none) := by
  rw [apply, action, compiled]
  rfl

theorem apply_drop (rule : Rule) (action : Text.lowerCase (rule.action.getD "replace") = "drop")
    (compiled : Regex.compileAnchored (rule.regex.getD "(.*)").toList = .ok pattern)
    (labels : Labels) :
    rule.apply labels =
      .ok (if (pattern.matchStart (rule.value labels).toList).isSome then none
        else some labels) := by
  rw [apply, action, compiled]
  rfl

theorem apply_labelmap (rule : Rule)
    (action : Text.lowerCase (rule.action.getD "replace") = "labelmap")
    (compiled : Regex.compileAnchored (rule.regex.getD "(.*)").toList = .ok pattern)
    (labels : Labels) :
    rule.apply labels =
      (mapNames pattern (rule.replacement.getD "$1") labels labels).map some := by
  rw [apply, action, compiled]
  rfl

theorem apply_replace (rule : Rule)
    (action : Text.lowerCase (rule.action.getD "replace") = "replace")
    (compiled : Regex.compileAnchored (rule.regex.getD "(.*)").toList = .ok pattern)
    (labels : Labels) :
    rule.apply labels =
      match pattern.matchStart (rule.value labels).toList with
      | none => .ok (some labels)
      | some m => (replace rule labels m).map some := by
  rw [apply, action, compiled]
  rfl

theorem apply_labelkeep (rule : Rule)
    (action : Text.lowerCase (rule.action.getD "replace") = "labelkeep")
    (compiled : Regex.compileAnchored (rule.regex.getD "(.*)").toList = .ok pattern)
    (labels : Labels) :
    rule.apply labels =
      .ok (some (labels.filter fun label => (pattern.matchStart label.1.toList).isSome)) := by
  rw [apply, action, compiled]
  rfl

theorem apply_labeldrop (rule : Rule)
    (action : Text.lowerCase (rule.action.getD "replace") = "labeldrop")
    (compiled : Regex.compileAnchored (rule.regex.getD "(.*)").toList = .ok pattern)
    (labels : Labels) :
    rule.apply labels =
      .ok (some (labels.filter fun label => !(pattern.matchStart label.1.toList).isSome)) := by
  rw [apply, action, compiled]
  rfl

/-- The actions that a rule may have. -/
def actions : List String := ["keep", "drop", "replace", "labelmap", "labeldrop", "labelkeep"]

theorem apply_unsupported (rule : Rule)
    (unknown : Text.lowerCase (rule.action.getD "replace") ∉ actions)
    (compiled : Regex.compileAnchored (rule.regex.getD "(.*)").toList = .ok pattern)
    (labels : Labels) :
    rule.apply labels =
      .error (.unsupportedAction (Text.lowerCase (rule.action.getD "replace"))) := by
  simp only [actions, List.mem_cons, List.not_mem_nil, or_false, not_or] at unknown
  obtain ⟨keep, drop, replace, labelmap, labeldrop, labelkeep⟩ := unknown
  rw [apply, compiled]
  simp only

theorem apply_invalid (rule : Rule) {error : Regex.PatternError}
    (invalid : Regex.compileAnchored (rule.regex.getD "(.*)").toList = .error error)
    (labels : Labels) : rule.apply labels = .error (.pattern error) := by
  rw [apply, invalid]

theorem action_cases (rule : Rule) :
    Text.lowerCase (rule.action.getD "replace") = "keep" ∨
    Text.lowerCase (rule.action.getD "replace") = "drop" ∨
    Text.lowerCase (rule.action.getD "replace") = "replace" ∨
    Text.lowerCase (rule.action.getD "replace") = "labelmap" ∨
    Text.lowerCase (rule.action.getD "replace") = "labeldrop" ∨
    Text.lowerCase (rule.action.getD "replace") = "labelkeep" ∨
    Text.lowerCase (rule.action.getD "replace") ∉ actions := by
  generalize Text.lowerCase (rule.action.getD "replace") = action
  simp only [actions, List.mem_cons, List.not_mem_nil, or_false]
  tauto

end Rule

theorem replace_of_expanded {rule : Rule} {m : Match} {target text : String}
    (named : expanded (rule.targetLabel.getD "") m = .ok target) (name : target ≠ "")
    (filled : expanded (rule.replacement.getD "$1") m = .ok text) (value : text ≠ "")
    (labels : Labels) : replace rule labels m = .ok (labels.insert target text) := by
  simp [replace, named, filled, name, value, bind, Except.bind, pure, Except.pure]

/-- What a rule that replaces does once its pattern has matched. -/
inductive Edit where
  | nothing
  | remove (name : String)
  | set (name text : String) (given : text ≠ "")

def Edit.perform : Edit → Labels → Labels
  | nothing, labels => labels
  | remove name, labels => labels.erase name
  | set name text _, labels => labels.insert name text

/-- A label that is set has a name. -/
def Edit.Named : Edit → Prop
  | set name _ _ => name ≠ ""
  | _ => True

/-- The match alone decides what is done, or why nothing can be. -/
theorem replace_cases (rule : Rule) (m : Match) :
    (∃ error, ∀ labels, replace rule labels m = .error error) ∨
      ∃ edit : Edit, edit.Named ∧ ∀ labels, replace rule labels m = .ok (edit.perform labels) := by
  cases named : expanded (rule.targetLabel.getD "") m with
  | error error => exact .inl ⟨error, fun labels => by simp [replace, named, bind, Except.bind]⟩
  | ok target =>
    by_cases unnamed : target = ""
    · exact .inr ⟨.nothing, trivial, fun labels => by
        simp [replace, named, unnamed, bind, Except.bind, pure, Except.pure, Edit.perform]⟩
    · cases filled : expanded (rule.replacement.getD "$1") m with
      | error error =>
        exact .inl ⟨error, fun labels => by simp [replace, named, unnamed, filled, bind, Except.bind]⟩
      | ok text =>
        by_cases empty : text = ""
        · exact .inr ⟨.remove target, trivial, fun labels => by
            simp [replace, named, unnamed, filled, empty, bind, Except.bind, pure, Except.pure,
              Edit.perform]⟩
        · exact .inr ⟨.set target text empty, unnamed,
            replace_of_expanded named unnamed filled empty⟩

/-- The pattern of a rule that says none: a whole line, as one group. -/
def wholeLine : Compiled :=
  ⟨.ofList [.group 1 (.loop 0 none true (.one .allButNewline)), .at .stop], 1, []⟩

theorem compile_wholeLine : Regex.compileAnchored "(.*)".toList = .ok wholeLine := by
  rfl

/-- A rule without sources and without a pattern writes its replacement. -/
theorem Rule.apply_constant (rule : Rule) {name text : String}
    (action : Text.lowerCase (rule.action.getD "replace") = "replace")
    (sources : rule.sourceLabels = none) (anything : rule.regex = none)
    (target : rule.targetLabel = some name) (replacement : rule.replacement = some text)
    (named : '$' ∉ name.toList ∧ name ≠ "") (plain : '$' ∉ text.toList ∧ text ≠ "")
    (labels : Labels) : rule.apply labels = .ok (some (labels.insert name text)) := by
  have compiled : Regex.compileAnchored (rule.regex.getD "(.*)").toList = .ok wholeLine := by
    rw [anything]
    exact compile_wholeLine
  have value : (rule.value labels).toList = [] := by
    rw [Rule.value, sources]
    rfl
  have replaced : ∀ m, replace rule labels m = .ok (labels.insert name text) := by
    intro m
    apply replace_of_expanded _ named.2 _ plain.2
    · rw [target]
      exact expanded_of_plain named.1 m
    · rw [replacement]
      exact expanded_of_plain plain.1 m
  rw [rule.apply_replace action compiled, value]
  exact congrArg (Except.map some) (replaced _)

/-! ### Renaming -/

/-- The pattern matches the names that begin with a text and go on with a part of a line, which is
its first group. -/
def ReadsBehind (front : String) (pattern : Compiled) : Prop :=
  ∀ name : List Char,
    (∃ m, pattern.matchStart name = some m ∧ IsLine (m.numbered 1) ∧
      name = front.toList ++ m.numbered 1) ∨
    (pattern.matchStart name = none ∧ ∀ tail, name = front.toList ++ tail → ¬ IsLine tail)

/-- What a label has after others have been renamed to what is behind a text in their names: the
value of the label that was renamed to it, or else its own. -/
def renamed (front : String) (source own : String → Option String) (name : String) :
    Option String :=
  if IsLine name.toList then (source (front ++ name)).or (own name) else own name

theorem mapNames_cons_of_match {pattern : Compiled} {name : String} {m : Match}
    (found : pattern.matchStart name.toList = some m) (isLine : IsLine (m.numbered 1))
    (value : String) (rest : List (String × String)) (onto : Labels) :
    mapNames pattern "$1" ((name, value) :: rest) onto =
      mapNames pattern "$1" rest (onto.insert (String.ofList (m.numbered 1)) value) := by
  have named : String.ofList (m.numbered 1) ≠ "" := fun same => isLine.1 (by simpa using same)
  rw [mapNames, found]
  simp only [expanded_first]

theorem get?_mapNames {front : String} {pattern : Compiled} (reads : ReadsBehind front pattern)
    {entries : Labels} (distinct : entries.Distinct) (onto : Labels) :
    ∃ result, mapNames pattern "$1" entries onto = .ok result ∧
      ∀ name, result.get? name = renamed front entries.get? onto.get? name := by
  -- on the labels read; those written so far are in `onto`, and no later one has the same name
  induction entries generalizing onto with
  | nil => exact ⟨onto, rfl, fun name => by simp [renamed]⟩
  | cons entry rest ih =>
    obtain ⟨key, value⟩ := entry
    obtain ⟨absent, others⟩ := distinct.of_cons
    rcases reads key.toList with ⟨m, found, isLine, split⟩ | ⟨missed, other⟩
    · obtain ⟨result, mapped, looks⟩ := ih others (onto.insert (String.ofList (m.numbered 1)) value)
      refine ⟨result, (mapNames_cons_of_match found isLine value rest onto).trans mapped, ?_⟩
      have named : key = front ++ String.ofList (m.numbered 1) :=
        String.toList_inj.mp (by rw [split, String.toList_append, String.toList_ofList])
      intro name
      rw [looks, renamed, renamed, Table.get?_insert, Table.get?_cons]
      by_cases here : String.ofList (m.numbered 1) = name
      · have isLine' : IsLine name.toList := by rwa [← here, String.toList_ofList]
        rw [if_pos here, if_pos isLine', if_pos isLine', ← here, ← named, absent, if_pos rfl]
        rfl
      · have unlike : key ≠ front ++ name := by
          intro same
          have lists := congrArg String.toList (named.symm.trans same)
          rw [String.toList_append, String.toList_append] at lists
          exact here (String.toList_inj.mp (List.append_cancel_left lists))
        rw [if_neg here, if_neg unlike]
    · obtain ⟨result, mapped, looks⟩ := ih others onto
      refine ⟨result, ?_, ?_⟩
      · rw [mapNames, missed]
        exact mapped
      · intro name
        rw [looks, renamed, renamed]
        split
        · rename_i isLine
          have unlike : key ≠ front ++ name := fun same =>
            other name.toList (by rw [same, String.toList_append]) isLine
          rw [Table.get?_cons, if_neg unlike]
        · rfl

/-! ### Rules one after another -/

/-- A label of empty value counts as absent. -/
theorem get?_present {labels : Labels} (distinct : labels.Distinct) (name : String) :
    (present labels).get? name = (labels.get? name).filter (· ≠ "") :=
  distinct.get?_filter _ name

theorem applyAll_cons_of_kept {rule : Rule} {labels next : Labels}
    (applied : rule.apply labels = .ok (some next)) (rest : List Rule) :
    applyAll (rule :: rest) labels = applyAll rest next := by
  rw [applyAll.eq_def]
  simp only [applied]

theorem applyAll_cons_of_dropped {rule : Rule} {labels : Labels}
    (applied : rule.apply labels = .ok none) (rest : List Rule) :
    applyAll (rule :: rest) labels = .ok (.dropped rule) := by
  rw [applyAll.eq_def]
  simp only [applied]

theorem applyAll_cons_of_failed {rule : Rule} {labels : Labels} {error : RuleError}
    (failed : rule.apply labels = .error error) (rest : List Rule) :
    applyAll (rule :: rest) labels = .error error := by
  rw [applyAll.eq_def]
  simp only [failed]

end Upkeep.Relabel
