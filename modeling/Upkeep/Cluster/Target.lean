import Upkeep.Cluster.Kind
import Upkeep.Cluster.Object

/-!
Targets: the identities of the objects that are looked after, and what is to be done to an object
to bring it into its wanted state.
-/
namespace Upkeep

structure Target where
  kind : Kind
  name : String
  ns : String
  deriving DecidableEq

namespace Target

def key (target : Target) : String :=
  target.kind.name ++ " " ++ target.ns ++ "/" ++ target.name

/-- The object of a target that does not exist yet. -/
def skeleton (target : Target) : Json :=
  .obj [("apiVersion", .str target.kind.apiVersion), ("kind", .str target.kind.name),
    ("metadata", .obj [("name", .str target.name), ("namespace", .str target.ns)])]

def named (kind name ns : String) : Except Malformed Target :=
  match Kind.ofName? kind with
  | some kind => .ok ⟨kind, name, ns⟩
  | none => .error (.unknownKind (.text kind))

end Target

/-- Changes to an object: labels to be set, top-level members to be written, and some to be removed,
in this order. Everything else is left alone. -/
structure Mutation where
  labels : List (String × String)
  fields : List (String × Json)
  dropped : List String

namespace Mutation

/-- Writes and removes top-level members. -/
def overlay (mutation : Mutation) (object : Json) : Json :=
  .obj ((Table.insertAll object.members mutation.fields).eraseAll mutation.dropped)

def apply (mutation : Mutation) (object : Json) : Except Malformed Json :=
  match Object.setLabels object mutation.labels with
  | .ok object => .ok (mutation.overlay object)
  | .error bad => .error bad

end Mutation
end Upkeep
