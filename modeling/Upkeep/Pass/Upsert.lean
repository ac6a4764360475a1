import Upkeep.Json.Written
import Upkeep.Pass.Result

/-!
Bringing one object up to date: it is read, changed, and the difference is sent as a merge patch; an
absent object is created. Nothing is sent if nothing differs. Members that the change does not
touch are left to whoever owns them. A patch is logged, in a dry run instead of being sent and
otherwise after it has been sent; where it has no text, this is where bringing the object up to date
fails.
-/
namespace Upkeep

/-- A change of an object, which may find it malformed. -/
abbrev Mutator := Json → Except Malformed Json

structure Upserter where
  client : Client
  dryRun : Bool

namespace Upserter

def tell (level : Log.Level) (message : String) : Dialogue Unit := .log level .upserter message

/-- Tells a patch by its text. -/
def tellPatch (level : Log.Level) (front : String) (change : Json) : Dialogue Unit :=
  match change.text with
  | .ok text => tell level (front ++ text)
  | .error bad => .fail (.unwritable bad)

/-- Creates a target that is not there. -/
def create (upserter : Upserter) (target : Target) (mutate : Mutator) : Dialogue Status := do
  let wanted ← Dialogue.ofExcept (mutate target.skeleton)
  if upserter.dryRun then
    tell .info ("[DRY-RUN] Would create " ++ target.key)
    return .dryRun
  let _ ← (upserter.client.create wanted).mapFailure (Failure.tagged .writing target)
  tell .info ("Created " ++ target.key)
  return .created

/-- Sends a patch that is not empty. -/
def send (upserter : Upserter) (target : Target) (change : Json) : Dialogue Status := do
  if upserter.dryRun then
    tellPatch .info ("[DRY-RUN] Would patch " ++ target.key ++ ": ") change
    return .dryRun
  let _ ← (upserter.client.patch target change).mapFailure (Failure.tagged .writing target)
  tell .info ("Patched " ++ target.key)
  tellPatch .debug ("Patch for " ++ target.key ++ ": ") change
  return .patched

/-- Patches a target that is there. -/
def update (upserter : Upserter) (target : Target) (mutate : Mutator) (current : Json) :
    Dialogue Status := do
  let wanted ← Dialogue.ofExcept (mutate current)
  match Json.diff current.members wanted.members with
  | [] =>
    tell .debug (target.key ++ " already up to date")
    return .unchanged
  | change => upserter.send target (.obj change)

/-- Brings a target up to date. -/
def upsert (upserter : Upserter) (target : Target) (mutate : Mutator) : Dialogue Status := do
  match ← (upserter.client.get target).mapFailure (Failure.tagged .reading target) with
  | none => upserter.create target mutate
  | some current => upserter.update target mutate current

end Upserter
end Upkeep
