import Upkeep.Cluster.Dialogue

/-!
The client: reading and writing objects by kind. An absent object is no error for a read or a
deletion. A typed client knows the fields of config maps and stateful sets and keeps only those; the
time of creation it writes in a form of its own.
-/
namespace Upkeep

structure Client where
  timeout : Option Seconds
  typed : Bool
  /-- The time of creation as a typed client gives it, by what is stored; `none` leaves it out. -/
  time : Option Json → Option String

/-- A client that gives objects as they are stored. -/
def Client.untyped (timeout : Option Seconds) : Client := ⟨timeout, false, fun _ => none⟩

/-! The fields that a typed client keeps. -/
namespace Typed

/-- The members of these names that are there and not null. -/
def pick (members : Table String Json) (names : List String) : Table String Json :=
  names.filterMap fun name =>
    match members.get? name with
    | none | some .null => none
    | some value => some (name, value)

/-- The time of creation, if there is one to be given. -/
def created : Option String → Table String Json
  | none => []
  | some text => [("creationTimestamp", .str text)]

def metadata (time : Option Json → Option String) (object : Json) : Except Malformed Json :=
  match Object.required object "metadata" with
  | .error bad => .error bad
  | .ok (.obj members) =>
    .ok (.obj (pick members ["name", "namespace", "labels", "annotations", "uid", "resourceVersion"]
      ++ created (time (Table.get? members "creationTimestamp"))))
  | .ok other => .error (.noObject other.form)

/-- What is kept of an object of a kind. -/
def view (time : Option Json → Option String) (kind : Kind) (object : Json) :
    Except Malformed Json :=
  let kept (names : List String) : Except Malformed Json :=
    match metadata time object with
    | .error bad => .error bad
    | .ok metadata =>
      .ok (.obj ([("apiVersion", .str kind.apiVersion), ("kind", .str kind.name)] ++
        pick object.members names ++ [("metadata", metadata)]))
  match kind with
  | .configMap => kept ["data"]
  | .statefulSet => kept []
  | .prometheusRule | .scrapeConfig => .ok object

end Typed

namespace Client

/-- A reply as this client gives it. -/
def view (client : Client) (kind : Kind) (reply : Json) : Except Malformed Json :=
  if client.typed then Typed.view client.time kind reply else .ok reply

def request (client : Client) (target : Target) (action : Action) : Request where
  action := action
  kind := target.kind
  ns := .str target.ns
  name := .str target.name
  timeout := client.timeout

/-- Fills in the version and the kind of an object that does not say them. -/
def withDefaults (kind : Kind) (object : Json) : Except Malformed Json :=
  match object with
  | .obj members =>
    .ok (.obj ((Table.insertNew members "apiVersion" (.str kind.apiVersion)).insertNew
      "kind" (.str kind.name)))
  | other => .error (.noDefaults other.form)

def received (client : Client) (kind : Kind) (reply : Json) : Except Malformed Json :=
  match client.view kind reply with
  | .ok object => withDefaults kind object
  | .error bad => .error bad

/-- Reads an object; `none` if there is none. -/
def get (client : Client) (target : Target) : Dialogue (Option Json) :=
  .ask (client.request target .get) fun
    | .ok reply => .ofExcept ((client.received target.kind reply).map some)
    | .error error =>
      if error.isNotFound then
        .note ⟨.debug, .client, target.key ++ " not found"⟩ (.done none)
      else .fail (.call error)

def writtenKind (value : Json) : Except Malformed Kind :=
  match Name.ofJson? value with
  | none => .error (.notNameable value.form)
  | some (.text name) =>
    match (Kind.ofName? name).filter Kind.isWritten with
    | some kind => .ok kind
    | none => .error (.unknownKind (.text name))
  | some other => .error (.unknownKind other)

/-- The request to create an object: the object says what it is. The kind is read first, then the
namespace, and the name last. -/
def creation (client : Client) (object : Json) : Except Malformed Request := do
  let kind ← Object.required object "kind"
  let metadata ← Object.required object "metadata"
  let ns ← Object.required metadata "namespace"
  let kind ← writtenKind kind
  let name ← Object.required metadata "name"
  return ⟨.create object, kind, ns, name, client.timeout⟩

def create (client : Client) (object : Json) : Dialogue Json := do
  let request ← Dialogue.ofExcept (client.creation object)
  let reply ← Dialogue.call request
  Dialogue.ofExcept (client.view request.kind reply)

def checkWritten (target : Target) : Except Malformed Unit :=
  if target.kind.isWritten then .ok () else .error (.unknownKind (.text target.kind.name))

def patch (client : Client) (target : Target) (change : Json) : Dialogue Json := do
  Dialogue.ofExcept (checkWritten target)
  let reply ← Dialogue.call (client.request target (.patch change))
  Dialogue.ofExcept (client.view target.kind reply)

/-- Deletes an object; `false` if there was none. -/
def delete (client : Client) (target : Target) : Dialogue Bool := do
  Dialogue.ofExcept (checkWritten target)
  .ask (client.request target .delete) fun
    | .ok _ => .done true
    | .error error => if error.isNotFound then .done false else .fail (.call error)

end Client
end Upkeep
