import Upkeep.Pass.Upsert
import Upkeep.Wanted.Targets

/-!
One pass over a namespace. The layout is found once. In the legacy layout only the aggregated object
is brought up to date; in the modern layout it is deleted first, and then the three modern objects
follow in order. The first failure ends the pass, and nothing is taken back.
-/
namespace Upkeep

/-- All that a pass depends on, the namespace apart. -/
structure Reconciler where
  client : Client
  documents : Wanted.Documents
  detector : Detector
  /-- The object that is deleted in the modern layout. -/
  legacyName : String
  dryRun : Bool

namespace Reconciler

/-- The usual names. -/
def standard (client : Client) (documents : Wanted.Documents) (dryRun : Bool) : Reconciler where
  client := client
  documents := documents
  detector := .sentinel Wanted.sentinelName
  legacyName := Wanted.aggregatedName
  dryRun := dryRun

def upserter (reconciler : Reconciler) : Upserter := ⟨reconciler.client, reconciler.dryRun⟩

def legacyTarget (reconciler : Reconciler) (ns : String) : Target :=
  ⟨.configMap, reconciler.legacyName, ns⟩

def detect (reconciler : Reconciler) (ns : String) : Dialogue Layout :=
  reconciler.detector.detect reconciler.client ns

def cleanupEntry (target : Target) (deleted : Bool) : Log.Entry :=
  if deleted then ⟨.info, .cleaner, "Deleted legacy " ++ target.key⟩
  else ⟨.debug, .cleaner, "Legacy " ++ target.key ++ " already absent"⟩

/-- Deletes the legacy object and says whether it was there. -/
def cleanup (reconciler : Reconciler) (ns : String) : Dialogue Bool := do
  let target := reconciler.legacyTarget ns
  if reconciler.dryRun then
    .note ⟨.info, .cleaner, "[DRY-RUN] Would delete " ++ target.key⟩ (.done false)
  else
    let deleted ← (reconciler.client.delete target).mapFailure (Failure.tagged .deleting target)
    .note (cleanupEntry target deleted) (.done deleted)

/-- What comes first in a layout: the modern one has no legacy object. -/
def prepare (reconciler : Reconciler) (ns : String) : Layout → Dialogue Bool
  | .legacy => .done false
  | .modern => reconciler.cleanup ns

def upsertAll (upserter : Upserter) (result : PassResult) :
    List (Target × Mutation) → Dialogue PassResult
  | [] => .done result
  | (target, mutation) :: rest => do
    let status ← upserter.upsert target mutation.apply
    upsertAll upserter (result.book target status) rest

/-- The targets of a layout. -/
def targets (reconciler : Reconciler) (ns : String) : Layout → List (Target × Mutation)
  | .legacy => [(Wanted.aggregatedTarget ns, Wanted.aggregatedMutation reconciler.documents)]
  | .modern => Wanted.modernTargets reconciler.documents ns

/-- Runs one pass. -/
def reconcile (reconciler : Reconciler) (ns : String) : Dialogue PassResult := do
  let layout ← reconciler.detect ns
  .log .info .reconciler
    ("Reconciling monitoring config in " ++ ns ++ " using " ++ layout.word ++ " schema")
  let deleted ← reconciler.prepare ns layout
  let start := { PassResult.start ns layout with legacyDeleted := deleted }
  let result ← upsertAll reconciler.upserter start (reconciler.targets ns layout)
  return result.finish

end Reconciler
end Upkeep
