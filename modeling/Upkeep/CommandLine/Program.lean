import Upkeep.CommandLine.Options
import Upkeep.CommandLine.TargetCheck
import Upkeep.Controller
import Upkeep.Pass.Run

/-!
What a command line asks for: to check a target, which needs no cluster, or to keep a namespace up
to date, once or until somebody ends it. The configuration of the cluster is loaded from one of two
places, and its loading may fail.
-/
namespace Upkeep.CommandLine

/-- How a namespace is to be kept up to date. -/
structure Job where
  ns : String
  once : Bool
  interval : Seconds
  requestTimeout : Seconds
  dryRun : Bool
  inCluster : Bool

inductive Command where
  | checkTarget (arguments : List String)
  | keep (job : Job)

namespace Options

def level (options : Options) : Log.Level := if options.verbose then .debug else .info

def job (options : Options) (ns : String) : Job :=
  ⟨ns, options.once, options.interval, options.requestTimeout, options.dryRun, options.inCluster⟩

/-- What is asked for. A target to be checked comes first; everything else needs a namespace. -/
def command (options : Options) : Except UsageError Command :=
  match options.checkTarget with
  | some (first :: rest) => .ok (.checkTarget (first :: rest))
  | _ =>
    match options.ns with
    | none | some none | some (some "") => .error .namespaceMissing
    | some (some ns) => .ok (.keep (options.job ns))

end Options

namespace Job

def tell (level : Log.Level) (message : String) : Dialogue Unit := .log level .commandLine message

def loadedMessage (job : Job) : String :=
  if job.inCluster then "Loaded in-cluster configuration"
  else "Loaded kubeconfig from default location"

def reconciler (job : Job) : Reconciler :=
  .standard (.untyped (some job.requestTimeout)) Wanted.Documents.packaged job.dryRun

def controller (job : Job) : Controller := .start job.ns job.interval

def pass (job : Job) : Dialogue PassResult := job.reconciler.reconcile job.ns

/-- A single pass: the exit code says whether it succeeded. A failure that nobody expected is passed
on. -/
def runOnce (job : Job) : Dialogue (Option Nat) := do
  match ← job.controller.reconcileOnce job.pass with
  | (.ok _, _) => return some 0
  | (.error (.step _), _) => return some 1
  | (.error failure, _) => .fail failure

/-- Passes until somebody ends them, at most `fuel`; then there is no exit code. -/
def runForever (job : Job) (fuel : Nat) : Dialogue (Option Nat) := do
  match ← job.controller.run (fun _ => job.pass) (fun _ => false) fuel with
  | (_, .cannotWait error) =>
    tell .error ("Controller error: " ++ error.message)
    return some 1
  | _ => return none

/-- Carries out the job, given whether the configuration could be loaded. -/
def carryOut (job : Job) (loading : Except String Unit) (fuel : Nat) : Dialogue (Option Nat) := do
  match loading with
  | .error text =>
    tell .error ("Failed to load Kubernetes config: " ++ text)
    return some 1
  | .ok () =>
    tell .info job.loadedMessage
    if job.once then job.runOnce else job.runForever fuel

end Job
end Upkeep.CommandLine
