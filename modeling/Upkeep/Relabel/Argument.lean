import Upkeep.Relabel.Rule
import Upkeep.Text.Blank

/-!
Labels given as arguments `name=value`. The name ends at the first equals sign and the blanks around
it do not count; the value is taken as it is.
-/
namespace Upkeep.Relabel

/-- An argument without an equals sign. -/
structure BadArgument where
  argument : String
  deriving DecidableEq

def BadArgument.message (bad : BadArgument) : String :=
  "Expected LABEL=VALUE, got " ++ Text.quoted bad.argument

def ofArgument (argument : String) : Except BadArgument (String × String) :=
  let cs := argument.toList
  match cs.dropWhile (· ≠ '=') with
  | [] => .error ⟨argument⟩
  | _ :: value =>
    .ok (String.ofList (Text.stripped (cs.takeWhile (· ≠ '='))), String.ofList value)

def addArguments (labels : Labels) : List String → Except BadArgument Labels
  | [] => .ok labels
  | argument :: rest =>
    match ofArgument argument with
    | .error bad => .error bad
    | .ok (name, value) => addArguments (labels.insert name value) rest

/-- The labels that some arguments give; a repeated name takes its last value. -/
def ofArguments (arguments : List String) : Except BadArgument Labels := addArguments [] arguments

end Upkeep.Relabel
