import Upkeep.Json.Value
import Upkeep.Relabel.Template
import Upkeep.Regex.Reader
import Upkeep.Text.LowerCase
import Upkeep.Text.Quoted

/-!
Relabelling rules. A rule joins the values of some labels and matches its pattern against the whole
of the result; by its action it keeps or drops the target, sets or removes a label, or copies,
removes or retains labels by name. Names of labels occur once in a label set.
-/
namespace Upkeep.Relabel

abbrev Labels := Table String String

/-- A rule as it is written; a field that is left out has its default. -/
structure Rule where
  sourceLabels : Option (List String)
  action : Option String
  targetLabel : Option String
  regex : Option String
  replacement : Option String
  separator : Option String

namespace Rule

def blank : Rule := ⟨none, none, none, none, none, none⟩

/-- The value that the pattern is matched against: absent labels count as empty. -/
def value (rule : Rule) (labels : Labels) : String :=
  (rule.separator.getD ";").intercalate
    ((rule.sourceLabels.getD []).map fun name => (labels.get? name).getD "")

def toJson (rule : Rule) : Json :=
  let text (key : String) (field : Option String) : List (String × Json) :=
    (field.map fun value => (key, Json.str value)).toList
  .obj ((rule.sourceLabels.map fun names => ("sourceLabels", Json.arr (names.map .str))).toList ++
    text "action" rule.action ++ text "targetLabel" rule.targetLabel ++ text "regex" rule.regex ++
    text "replacement" rule.replacement ++ text "separator" rule.separator)

/-- The rule in one line, for messages. -/
def display (rule : Rule) : String :=
  let text (key : String) (field : Option String) : List String :=
    (field.map fun value => Text.quoted key ++ ": " ++ Text.quoted value).toList
  let names (names : List String) : String := "[" ++ ", ".intercalate (names.map Text.quoted) ++ "]"
  "\x7b" ++ ", ".intercalate
    ((rule.sourceLabels.map fun given =>
        Text.quoted "sourceLabels" ++ ": " ++ names given).toList ++
      text "action" rule.action ++ text "targetLabel" rule.targetLabel ++
      text "regex" rule.regex ++ text "replacement" rule.replacement ++
      text "separator" rule.separator) ++ "\x7d"

end Rule

inductive RuleError where
  | pattern (error : Regex.PatternError)
  | unsupportedAction (action : String)
  | badNumber (bad : BadNumber)
  deriving DecidableEq

def RuleError.message : RuleError → String
  | .pattern error => error.message
  | .unsupportedAction action => "Unsupported relabel action: " ++ action
  | .badNumber bad => bad.message

def expanded (template : String) (m : Regex.Match) : Except RuleError String :=
  match expand template.toList m with
  | .ok text => .ok (String.ofList text)
  | .error bad => .error (.badNumber bad)

/-- Sets the target label to the replacement; an empty replacement removes the label, an empty name
leaves all as it is. -/
def replace (rule : Rule) (labels : Labels) (m : Regex.Match) : Except RuleError Labels := do
  let target ← expanded (rule.targetLabel.getD "") m
  if target = "" then
    return labels
  let text ← expanded (rule.replacement.getD "$1") m
  return if text = "" then labels.erase target else labels.insert target text

/-- Copies the value of each label whose name matches to the name that the replacement gives. -/
def mapNames (pattern : Regex.Compiled) (replacement : String) :
    List (String × String) → Labels → Except RuleError Labels
  | [], labels => .ok labels
  | (name, value) :: rest, labels =>
    match pattern.matchStart name.toList with
    | none => mapNames pattern replacement rest labels
    | some m =>
      match expanded replacement m with
      | .error error => .error error
      | .ok "" => mapNames pattern replacement rest labels
      | .ok renamed => mapNames pattern replacement rest (labels.insert renamed value)

/-- Carries out a rule; no labels are left if it drops the target. The pattern has to be valid
whatever the action. -/
def Rule.apply (rule : Rule) (labels : Labels) : Except RuleError (Option Labels) :=
  let action := Text.lowerCase (rule.action.getD "replace")
  match Regex.compileAnchored (rule.regex.getD "(.*)").toList with
  | .error error => .error (.pattern error)
  | .ok pattern =>
    let found (text : String) : Option Regex.Match := pattern.matchStart text.toList
    let holds (text : String) : Bool := (found text).isSome
    match action with
    | "keep" => .ok (if holds (rule.value labels) then some labels else none)
    | "drop" => .ok (if holds (rule.value labels) then none else some labels)
    | "replace" =>
      match found (rule.value labels) with
      | none => .ok (some labels)
      | some m => (replace rule labels m).map some
    | "labelmap" => (mapNames pattern (rule.replacement.getD "$1") labels labels).map some
    | "labeldrop" => .ok (some (labels.filter fun label => !holds label.1))
    | "labelkeep" => .ok (some (labels.filter fun label => holds label.1))
    | action => .error (.unsupportedAction action)

/-- How a list of rules ends: with labels, or with the rule that dropped the target. -/
inductive Verdict where
  | kept (labels : Labels)
  | dropped (rule : Rule)

namespace Verdict

def labels? : Verdict → Option Labels
  | .kept labels => some labels
  | .dropped _ => none

end Verdict

/-- Carries out rules one after another until one drops the target. -/
def applyAll : List Rule → Labels → Except RuleError Verdict
  | [], labels => .ok (.kept labels)
  | rule :: rest, labels =>
    match rule.apply labels with
    | .error error => .error error
    | .ok none => .ok (.dropped rule)
    | .ok (some labels) => applyAll rest labels

/-- Labels without those of empty value, which count as absent. -/
def present (labels : Labels) : Labels := labels.filter fun label => label.2 ≠ ""

def relabel (labels : Labels) (rules : List Rule) : Except RuleError Verdict :=
  applyAll rules (present labels)

/-- The labels after each rule, each being fed to the next one; `none` ends the list once the target
has been dropped. -/
def trace : List Rule → Labels → Except RuleError (List (Option Labels))
  | [], _ => .ok []
  | rule :: rest, labels =>
    match rule.apply labels with
    | .error error => .error error
    | .ok none => .ok [none]
    | .ok (some labels) => (trace rest labels).map (some labels :: ·)

end Upkeep.Relabel
