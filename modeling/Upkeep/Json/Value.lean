import Upkeep.Number.Double
import Upkeep.Table

/-!
JSON values. An object is a table: its members keep the order in which they were written. Integers
and doubles are different values, as they are written differently; `Json.same` is the comparison
that looks at what a value is worth. It does not assume that the keys of an object occur once, but
`WellFormed` says so and every value that is read or built here is.
-/
namespace Upkeep

inductive Json where
  | null
  | bool (value : Bool)
  | int (value : Int)
  | float (value : Double)
  | str (value : String)
  | arr (items : List Json)
  | obj (members : List (String × Json))
  deriving Inhabited

/-- What a number is worth, in units of 2^-1074. -/
inductive Quantity where
  | finite (units : Int)
  | infinite (negative : Bool)
  deriving DecidableEq

def Double.quantity : Double → Quantity
  | .finite x => .finite x.signedUnits
  | .infinite negative => .infinite negative

namespace Json

def members : Json → Table String Json
  | .obj members => members
  | _ => []

def isObject : Json → Bool
  | .obj _ => true
  | _ => false

def get? (value : Json) (key : String) : Option Json := value.members.get? key

/-- What a value is worth as a number; a truth value counts as 1 or 0. -/
def quantity? : Json → Option Quantity
  | .bool b => some (.finite (if b then unitsInOne else 0))
  | .int n => some (.finite (n * unitsInOne))
  | .float x => some x.quantity
  | _ => none

mutual

/-- Equality of worth: numbers and truth values by quantity, objects by key, lists in order. -/
def same : Json → Json → Bool
  | .null, other => match other with
    | .null => true
    | _ => false
  | .bool b, other => (Json.bool b).quantity? == other.quantity?
  | .int n, other => (Json.int n).quantity? == other.quantity?
  | .float x, other => (Json.float x).quantity? == other.quantity?
  | .str s, other => match other with
    | .str t => s == t
    | _ => false
  | .arr items, other => match other with
    | .arr others => sameItems items others
    | _ => false
  | .obj members, other => match other with
    | .obj others => members.length == others.length && sameMembers members others
    | _ => false

def sameItems : List Json → List Json → Bool
  | [], others => others.isEmpty
  | item :: rest, others => match others with
    | other :: others => same item other && sameItems rest others
    | [] => false

def sameMembers : List (String × Json) → Table String Json → Bool
  | [], _ => true
  | (key, value) :: rest, others =>
    (match others.get? key with
      | some other => same value other
      | none => false) && sameMembers rest others

end

mutual

/-- In every object of the value no key occurs twice. -/
def WellFormed : Json → Prop
  | .arr items => WellFormedItems items
  | .obj members => Table.Distinct members ∧ WellFormedMembers members
  | _ => True

def WellFormedItems : List Json → Prop
  | [] => True
  | item :: rest => WellFormed item ∧ WellFormedItems rest

def WellFormedMembers : List (String × Json) → Prop
  | [] => True
  | (_, value) :: rest => WellFormed value ∧ WellFormedMembers rest

end

/-- What a JSON value is, for messages about a value of the wrong form. -/
inductive Form where
  | null | bool | int | float | str | arr | obj
  deriving DecidableEq

def form : Json → Form
  | .null => .null
  | .bool _ => .bool
  | .int _ => .int
  | .float _ => .float
  | .str _ => .str
  | .arr _ => .arr
  | .obj _ => .obj

end Json
end Upkeep
