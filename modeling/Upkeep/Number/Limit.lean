/-!
How many digits an integer may have. One of more digits is neither read nor written; the message
tells how many there are when it is read, and does not when it is written.
-/
namespace Upkeep

/-- A numeral of more digits than are read as an integer. -/
structure Overlong where
  digits : Nat
  deriving DecidableEq

namespace Overlong

def limit : Nat := 4300

/-- What is wrong, up to the number of digits. -/
def complaint : String :=
  "Exceeds the limit (" ++ toString limit ++ " digits) for integer string conversion"

/-- What can be done about it. -/
def advice : String := "; use sys.set_int_max_str_digits() to increase the limit"

def message (overlong : Overlong) : String :=
  complaint ++ ": value has " ++ toString overlong.digits ++ " digits" ++ advice

end Overlong

/-- A value that has no text. -/
inductive Unwritable where
  /-- It has an integer of too many digits. -/
  | overlong
  deriving DecidableEq

def Unwritable.message : Unwritable → String
  | .overlong => Overlong.complaint ++ Overlong.advice

end Upkeep
