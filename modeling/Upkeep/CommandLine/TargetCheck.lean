import Upkeep.Log
import Upkeep.Relabel.Argument
import Upkeep.Wanted.Scraping

/-!
Checking a target: its labels are given as arguments and relabelled by the rules for targets. The
exit code is 0 if it would be scraped, 1 if it would be dropped and 2 if an argument is no label.
-/
namespace Upkeep.CommandLine

structure Report where
  code : Nat
  entries : List Log.Entry

def told (level : Log.Level) (message : String) : Log.Entry := ⟨level, .commandLine, message⟩

/-- One line for each label, in the order of their names. -/
def labelEntries (labels : Relabel.Labels) : List Log.Entry :=
  labels.sorted.map fun label => told .info ("  " ++ label.1 ++ "=" ++ label.2)

def droppedEntry (rule : Relabel.Rule) : Log.Entry :=
  ⟨.debug, .relabelling, "Target dropped by relabel rule " ++ rule.display⟩

/-- Relabels a target. The error of a rule that cannot be carried out is not caught and ends the
program: nothing is logged, and the code is 1. No label set brings the rules for targets to this. -/
def checkLabels (labels : Relabel.Labels) : Report :=
  match Relabel.relabel labels Wanted.targetRules with
  | .ok (.kept labels) => ⟨0, told .info "Target would be scraped" :: labelEntries labels⟩
  | .ok (.dropped rule) => ⟨1, [droppedEntry rule, told .info "Target would be dropped"]⟩
  | .error _ => ⟨1, []⟩

def checkTarget (arguments : List String) : Report :=
  match Relabel.ofArguments arguments with
  | .ok labels => checkLabels labels
  | .error bad => ⟨2, [told .error bad.message]⟩

end Upkeep.CommandLine
