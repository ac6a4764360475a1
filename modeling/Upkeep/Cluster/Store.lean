import Upkeep.Cluster.Request
import Upkeep.Cluster.Target
import Upkeep.Json.MergePatch

/-!
The store behind the API: objects by kind, namespace and name, and a counter that every change of
content moves on. Reads return what is stored; a patch that changes nothing leaves the counter and
the object's version alone. A request that fails leaves all objects as they were.
-/
namespace Upkeep

structure ObjectKey where
  kind : String
  ns : Name
  name : Name
  deriving DecidableEq

def ObjectKey.text (key : ObjectKey) : String :=
  key.kind ++ " " ++ key.ns.written ++ "/" ++ key.name.written

def ObjectKey.same (a b : ObjectKey) : Bool :=
  a.kind == b.kind && a.ns.same b.ns && a.name.same b.name

/-- The key that a request asks for. -/
def Request.key (request : Request) : Except Malformed ObjectKey :=
  match Name.ofJson? request.ns, Name.ofJson? request.name with
  | some ns, some name => .ok ⟨request.kind.name, ns, name⟩
  | none, _ => .error (.notNameable request.ns.form)
  | _, none => .error (.notNameable request.name.form)

def Target.objectKey (target : Target) : ObjectKey :=
  ⟨target.kind.name, .text target.ns, .text target.name⟩

theorem Target.same_objectKey (key : ObjectKey) (target : Target) :
    key.same target.objectKey ↔ key = target.objectKey := by
  cases key
  simp [ObjectKey.same, Target.objectKey, and_assoc]

structure Cluster where
  objects : Table ObjectKey Json
  counter : Nat

namespace Cluster

def empty : Cluster := ⟨[], 0⟩

def get? (cluster : Cluster) (key : ObjectKey) : Option Json := cluster.objects.get? key

/-- The key under which the store has an object, or will have it. -/
def keyFor (cluster : Cluster) (key : ObjectKey) : ObjectKey :=
  (cluster.objects.keys.find? (·.same key)).getD key

/-- The store keeps targets under their own keys. -/
@[simp] theorem keyFor_objectKey (cluster : Cluster) (target : Target) :
    cluster.keyFor target.objectKey = target.objectKey := by
  unfold keyFor
  cases found : cluster.objects.keys.find? (·.same target.objectKey) with
  | none => rfl
  | some key =>
    have alike : key.same target.objectKey := by simpa using List.find?_some found
    exact (Target.same_objectKey key target).1 alike

def put (cluster : Cluster) (key : ObjectKey) (object : Json) : Cluster :=
  { cluster with objects := cluster.objects.insert key object }

def remove (cluster : Cluster) (key : ObjectKey) : Cluster :=
  { cluster with objects := cluster.objects.erase key }

def creationTime : String := "2024-05-01T00:00:00Z"

/-- The metadata of an object after its change number `n`. -/
def stampMetadata (metadata : Table String Json) (n : Nat) : Table String Json :=
  let known := metadata.insertNew "uid" (.str ("uid-" ++ toString n))
  let dated := known.insertNew "creationTimestamp" (.str creationTime)
  dated.insert "resourceVersion" (.str (toString n))

/-- Gives an object its version, and an identity if it has none. -/
def stamp (object : Json) (n : Nat) : Except Malformed Json :=
  match object with
  | .obj members =>
    match Table.get? members "metadata" with
    | none => .ok (.obj (Table.insert members "metadata" (.obj (stampMetadata [] n))))
    | some (.obj metadata) =>
      .ok (.obj (Table.insert members "metadata" (.obj (stampMetadata metadata n))))
    | some other => .error (.noDefaults other.form)
  | other => .error (.noDefaults other.form)

def store (cluster : Cluster) (key : ObjectKey) (object : Json) : Except CallError Json × Cluster :=
  let n := cluster.counter + 1
  match stamp object n with
  | .ok stamped => (.ok stamped, { cluster.put key stamped with counter := n })
  | .error bad => (.error (.malformed bad), { cluster with counter := n })

/-- Stores what a patch makes of an object; a new version only if the content differs. -/
def storePatched (cluster : Cluster) (key : ObjectKey) (old new : Json) :
    Except CallError Json × Cluster :=
  if new.same old then (.ok new, cluster.put key new) else cluster.store key new

def deleted : Json := .obj [("status", .str "Success")]

def act (cluster : Cluster) (key : ObjectKey) (action : Action) : Except CallError Json × Cluster :=
  match action, cluster.get? key with
  | .get, some object => (.ok object, cluster)
  | .create object, none => cluster.store key object
  | .create _, some _ => (.error .conflict, cluster)
  | .patch change, some object => cluster.storePatched key object (object.apply change)
  | .delete, some _ => (.ok deleted, cluster.remove key)
  | _, none => (.error .notFound, cluster)

def perform (cluster : Cluster) (request : Request) : Except CallError Json × Cluster :=
  match request.key with
  | .ok key => cluster.act (cluster.keyFor key) request.action
  | .error bad => (.error (.malformed bad), cluster)

end Cluster
end Upkeep
