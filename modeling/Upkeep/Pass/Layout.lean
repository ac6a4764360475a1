import Upkeep.Cluster.Client
import Upkeep.Wanted.Names

/-!
Layouts: in the legacy one a single object holds all documents, in the modern one each concern has
an object of its own. A namespace is in the legacy layout as long as the sentinel is there.
-/
namespace Upkeep

inductive Layout where
  | legacy
  | modern
  deriving DecidableEq

structure UnknownLayout where
  word : String
  deriving DecidableEq

def UnknownLayout.message (unknown : UnknownLayout) : String :=
  Text.quoted unknown.word ++ " is not a valid SchemaVersion"

namespace Layout

def word : Layout → String
  | legacy => "legacy"
  | modern => "modern"

def ofWord (word : String) : Except UnknownLayout Layout :=
  match word with
  | "legacy" => .ok .legacy
  | "modern" => .ok .modern
  | _ => .error ⟨word⟩

end Layout

/-- How the layout of a namespace is found. -/
inductive Detector where
  | fixed (layout : Layout)
  | sentinel (name : String)
  deriving DecidableEq

namespace Detector

def sentinelTarget (name ns : String) : Target := ⟨.statefulSet, name, ns⟩

def layoutOf : Option Json → Layout
  | some _ => .legacy
  | none => .modern

def sentinelEntry (target : Target) (layout : Layout) : Log.Entry where
  level := .debug
  part := .detector
  message := "Sentinel " ++ target.key ++
    (if layout = .legacy then " present" else " absent") ++
    ", using " ++ layout.word ++ " schema"

def detect (client : Client) (detector : Detector) (ns : String) : Dialogue Layout :=
  match detector with
  | .fixed layout => .done layout
  | .sentinel name => do
    let target := sentinelTarget name ns
    let found ← (client.get target).mapFailure (Failure.tagged .reading target)
    .note (sentinelEntry target (layoutOf found)) (.done (layoutOf found))

end Detector
end Upkeep
