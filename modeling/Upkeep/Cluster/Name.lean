import Upkeep.Json.Value
import Upkeep.Number.Written

/-!
Names of objects and namespaces as the store keeps them. A name ought to be a text, but the store
takes every value that has no parts. Names that are numbers are the same if they are worth the same.
-/
namespace Upkeep

inductive Name where
  | text (value : String)
  | null
  | bool (value : Bool)
  | int (value : Int)
  | float (value : Double)
  deriving DecidableEq

namespace Name

/-- The name that a value is; a list or an object is none. -/
def ofJson? : Json → Option Name
  | .str s => some (text s)
  | .null => some null
  | .bool b => some (bool b)
  | .int n => some (int n)
  | .float x => some (float x)
  | .arr _ | .obj _ => none

def written : Name → String
  | text s => s
  | null => "None"
  | bool b => if b then "True" else "False"
  | int n => String.ofList (writeInt n)
  | float x => String.ofList (Format.plain.write x)

def quantity? : Name → Option Quantity
  | text _ | null => none
  | bool b => (Json.bool b).quantity?
  | int n => (Json.int n).quantity?
  | float x => (Json.float x).quantity?

def same (a b : Name) : Bool := a = b || (a.quantity?.isSome && a.quantity? == b.quantity?)

@[simp] theorem same_text (a : Name) (s : String) : a.same (text s) ↔ a = text s := by
  have unlike : (a.quantity?.isSome && a.quantity? == (text s).quantity?) = false := by
    cases a.quantity? <;> rfl
  simp [same, unlike]

end Name
end Upkeep
