import Upkeep.CommandLine.Flag
import Upkeep.Text.Quoted

/-!
What can be wrong with the words of a command line.
-/
namespace Upkeep.CommandLine

inductive Misuse where
  | needsOne
  | needsSome
  /-- A value was joined to an option that takes none. -/
  | takesNothing (value : String)
  | notNumber (value : String)
  deriving DecidableEq

def Misuse.message : Misuse → String
  | needsOne => "expected one argument"
  | needsSome => "expected at least one argument"
  | takesNothing value => "ignored explicit argument " ++ Text.quoted value
  | notNumber value => "invalid float value: " ++ Text.quoted value

inductive UsageError where
  /-- A beginning that several options share. -/
  | ambiguous (word : String) (spellings : List String)
  | misused (flag : Flag) (misuse : Misuse)
  | unrecognized (words : List String)
  | namespaceMissing
  deriving DecidableEq

def UsageError.message : UsageError → String
  | ambiguous word spellings =>
    "ambiguous option: " ++ word ++ " could match " ++ ", ".intercalate spellings
  | misused flag misuse => "argument " ++ flag.display ++ ": " ++ misuse.message
  | unrecognized words => "unrecognized arguments: " ++ " ".intercalate words
  | namespaceMissing => "--namespace is required"

end Upkeep.CommandLine
