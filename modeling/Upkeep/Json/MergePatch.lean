import Upkeep.Json.Value

/-!
Merge patches: a patch is an object that names the members to be changed, with null for those to be
removed. `diff` computes the patch between two objects and `apply` carries a patch out. Null cannot
be told apart from removal, so a null in the new object comes out only where the old one had it.
-/
namespace Upkeep.Json

/-- A null for each member of the old object that the new one lacks. -/
def removals (old new : Table String Json) : Table String Json :=
  (old.filter fun member => !new.contains member.1).map fun member => (member.1, .null)

def replacement? (old new : Json) : Option Json := if old.same new then none else some new

mutual

/-- What a patch must say about a member that is `old` and shall be `new`; nothing if they are worth
the same. Two objects are compared member by member, any other change replaces the whole value. -/
def patchTo (old : Json) : Json → Option Json
  | .obj new =>
    match old with
    | .obj members =>
      match patchMembers members new ++ removals members new with
      | [] => none
      | patch => some (.obj patch)
    | _ => some (.obj new)
  | .arr items => replacement? old (.arr items)
  | .str s => replacement? old (.str s)
  | .int n => replacement? old (.int n)
  | .float x => replacement? old (.float x)
  | .bool b => replacement? old (.bool b)
  | .null => replacement? old .null

/-- The new and the changed members, in the order of the new object. -/
def patchMembers (old : Table String Json) : List (String × Json) → Table String Json
  | [] => []
  | (key, value) :: rest =>
    match (match old.get? key with
      | none => some value
      | some current => patchTo current value) with
    | some change => (key, change) :: patchMembers old rest
    | none => patchMembers old rest

end

/-- The patch from one object to another, as a table of its members. -/
def diff (old new : Table String Json) : Table String Json :=
  patchMembers old new ++ removals old new

mutual

/-- Carries out a patch. A patch that is no object is the result; a target that is no object counts
as an empty one. -/
def apply (target : Json) : Json → Json
  | .obj patch => .obj (applyMembers target.members patch)
  | .arr items => .arr items
  | .str s => .str s
  | .int n => .int n
  | .float x => .float x
  | .bool b => .bool b
  | .null => .null

def applyMembers (target : Table String Json) : List (String × Json) → Table String Json
  | [] => target
  | (key, change) :: rest =>
    match change with
    | .null => applyMembers (target.erase key) rest
    | change =>
      applyMembers (target.insert key (apply ((target.get? key).getD .null) change)) rest

end

end Upkeep.Json
