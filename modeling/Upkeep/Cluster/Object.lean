import Upkeep.Cluster.Name
import Upkeep.Text.Quoted

/-!
Objects of a cluster are JSON objects whose labels stand under `metadata`. A stored object may have
any other form there, so each access says what is wrong with it.
-/
namespace Upkeep

/-- Why an object has not the form that is needed. -/
inductive Malformed where
  /-- A member was looked up by a key that is not there. -/
  | missing (key : String)
  /-- A member was asked for where there is no object. -/
  | noObject (found : Json.Form)
  /-- A default was to be filled in where there is no object. -/
  | noDefaults (found : Json.Form)
  /-- A member was to be set where there is no object. -/
  | notAssignable (found : Json.Form)
  /-- A member was looked up by key where there is no object. -/
  | notIndexable (found : Json.Form)
  /-- There is no such kind, or it is only read. -/
  | unknownKind (kind : Name)
  /-- A list or an object was given as a name or a kind. -/
  | notNameable (found : Json.Form)
  deriving DecidableEq

def Json.Form.word : Json.Form → String
  | .null => "NoneType"
  | .bool => "bool"
  | .int => "int"
  | .float => "float"
  | .str => "str"
  | .arr => "list"
  | .obj => "dict"

def Malformed.message : Malformed → String
  | .missing key => Text.quoted key
  | .noObject found => "'" ++ found.word ++ "' object has no attribute 'get'"
  | .noDefaults found => "'" ++ found.word ++ "' object has no attribute 'setdefault'"
  | .notAssignable .arr => "list indices must be integers or slices, not str"
  | .notAssignable found => "'" ++ found.word ++ "' object does not support item assignment"
  | .notIndexable .arr => "list indices must be integers or slices, not str"
  | .notIndexable .str => "string indices must be integers, not 'str'"
  | .notIndexable found => "'" ++ found.word ++ "' object is not subscriptable"
  | .unknownKind (.text kind) => Text.quoted kind
  | .unknownKind kind => kind.written
  | .notNameable found => "unhashable type: '" ++ found.word ++ "'"

namespace Object

/-- The labels with one of them set; missing and null labels count as none. -/
def setIn (labels : Option Json) (key value : String) : Except Malformed Json :=
  match labels with
  | none | some .null => .ok (.obj [(key, .str value)])
  | some (.obj labels) => .ok (.obj (Table.insert labels key (.str value)))
  | some other => .error (.notAssignable other.form)

/-- Sets a label of an object. Missing metadata is made; metadata or labels that are no object are
refused, and then nothing has changed. -/
def setLabel (object : Json) (key value : String) : Except Malformed Json :=
  match object with
  | .obj members =>
    match Table.get? members "metadata" with
    | none =>
      .ok (.obj (Table.insert members "metadata" (.obj [("labels", .obj [(key, .str value)])])))
    | some (.obj metadata) =>
      match setIn (Table.get? metadata "labels") key value with
      | .ok labels =>
        .ok (.obj (Table.insert members "metadata" (.obj (Table.insert metadata "labels" labels))))
      | .error bad => .error bad
    | some other => .error (.noObject other.form)
  | other => .error (.noDefaults other.form)

def setLabels (object : Json) : List (String × String) → Except Malformed Json
  | [] => .ok object
  | (key, value) :: rest =>
    match setLabel object key value with
    | .ok object => setLabels object rest
    | .error bad => .error bad

def required (object : Json) (key : String) : Except Malformed Json :=
  match object with
  | .obj members =>
    match Table.get? members key with
    | some value => .ok value
    | none => .error (.missing key)
  | other => .error (.notIndexable other.form)

end Object
end Upkeep
