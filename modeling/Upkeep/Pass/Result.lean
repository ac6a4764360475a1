import Upkeep.Pass.Layout
import Upkeep.Table

/-!
What a pass reports: the layout, whether the legacy object was deleted, and a status for each
target. A pass has changed something if it deleted the legacy object or if some status says so.
-/
namespace Upkeep

/-- What has become of a target, in one word. -/
structure Status where
  word : String
  deriving DecidableEq

namespace Status

def created : Status := ⟨"created"⟩

def patched : Status := ⟨"patched"⟩

def unchanged : Status := ⟨"unchanged"⟩

/-- A change was only announced. -/
def dryRun : Status := ⟨"dry-run"⟩

end Status

structure PassResult where
  ns : String
  layout : Layout
  legacyDeleted : Bool
  resources : Table String Status
  finished : Bool
  deriving DecidableEq

namespace PassResult

def start (ns : String) (layout : Layout) : PassResult := ⟨ns, layout, false, [], false⟩

def finish (result : PassResult) : PassResult := { result with finished := true }

def changed (result : PassResult) : Bool :=
  result.legacyDeleted || result.resources.any fun resource => resource.2 ≠ .unchanged

def book (result : PassResult) (target : Target) (status : Status) : PassResult :=
  { result with resources := result.resources.insert target.key status }

def summary (result : PassResult) : String :=
  ", ".intercalate (result.resources.map fun resource => resource.1 ++ ": " ++ resource.2.word)

end PassResult
end Upkeep
