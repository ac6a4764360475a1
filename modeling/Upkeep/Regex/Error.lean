import Upkeep.Number.Numeral

/-!
Why a text is no pattern. Nearly always it breaks a rule of the notation; a number that is too large
or too long, and flags that contradict each other, are told apart from that.
-/
namespace Upkeep.Regex

inductive PatternError where
  | invalid
  /-- A bound of a repetition is too large. -/
  | tooManyRounds
  /-- A bound of a repetition has too many digits. -/
  | overlong (bound : Overlong)
  /-- The whole pattern asks for the ASCII classes and for the others. -/
  | contradiction
  deriving DecidableEq

namespace PatternError

def message : PatternError → String
  | invalid => "invalid pattern"
  | tooManyRounds => "the repetition number is too large"
  | overlong bound => bound.message
  | contradiction => "ASCII and UNICODE flags are incompatible"

end PatternError
end Upkeep.Regex
