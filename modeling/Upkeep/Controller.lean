import Upkeep.Pass.Result

/-!
The controller runs passes over one namespace until it is stopped or interrupted. It counts the
passes that have failed in a row and keeps the last result. A failed pass is reported and tried
again after the interval. A run is bounded by a number of passes, which is no part of its behaviour.
-/
namespace Upkeep

structure Controller where
  ns : String
  /-- Seconds between two passes. -/
  interval : Seconds
  /-- The last successful pass. -/
  last : Option PassResult
  /-- How many passes have failed in a row. -/
  failures : Nat
  stopped : Bool

inductive WaitError where
  /-- The interval is longer than the clock can measure. -/
  | tooLong
  /-- There is no interval. -/
  | noInterval
  deriving DecidableEq

def WaitError.message : WaitError → String
  | tooLong => "timestamp too large to convert to C _PyTime_t"
  | noInterval => "'>' not supported between instances of 'list' and 'int'"

inductive Ending where
  | stopped
  | interrupted
  | cannotWait (error : WaitError)
  /-- The bound on the number of passes was reached. -/
  | unfinished
  deriving DecidableEq

/-- Clocks count nanoseconds in 63 bits. -/
def nanosecondsLimit : Nat := Nat.pow 2 63

/-- Whether a time in seconds does not fit into 63 bits as nanoseconds. -/
def Seconds.exceedsClock : Seconds → Bool
  | .whole value => nanosecondsLimit ≤ value * 1000000000
  | .double (.finite x) => nanosecondsLimit * unitsInOne ≤ x.signedUnits * 1000000000
  | .double (.infinite negative) => !negative
  | .notANumber | .absent => false

/-- What keeps somebody from waiting for so long, if anything does. -/
def Seconds.waitError? (interval : Seconds) : Option WaitError :=
  if interval = .absent then some .noInterval
  else if interval.exceedsClock then some .tooLong
  else none

namespace Controller

def start (ns : String) (interval : Seconds) : Controller := ⟨ns, interval, none, 0, false⟩

def tell (level : Log.Level) (message : String) : Dialogue Unit := .log level .controller message

/-- Books the end of a pass. A failure that nobody expected is not booked here. -/
def account (controller : Controller) : Except Failure PassResult → Controller
  | .ok result => { controller with failures := 0, last := some result }
  | .error (.step _) => { controller with failures := controller.failures + 1 }
  | .error _ => controller

def report (controller : Controller) : Except Failure PassResult → Option Log.Entry
  | .ok result =>
    if result.changed then
      some ⟨.info, .controller, "Reconciled " ++ controller.ns ++
        " (" ++ result.layout.word ++ "): " ++ result.summary⟩
    else some ⟨.debug, .controller, "Monitoring config in " ++ controller.ns ++
      " already up to date"⟩
  | .error (.step error) =>
    some ⟨.error, .controller, "Reconcile of " ++ controller.ns ++
      " failed (" ++ toString controller.failures ++ " in a row): " ++ error.message⟩
  | .error _ => none

def reconcileOnce (controller : Controller) (pass : Dialogue PassResult) :
    Dialogue (Except Failure PassResult × Controller) := do
  let outcome ← pass.attempt
  let controller := controller.account outcome
  match controller.report outcome with
  | some entry => .note entry (.done (outcome, controller))
  | none => .done (outcome, controller)

def stop (controller : Controller) : Dialogue Controller := do
  tell .info "Stopping controller..."
  return { controller with stopped := true }

/-- Stops the controller if somebody does. -/
def stopIf (controller : Controller) (somebody : Bool) : Dialogue Controller :=
  if somebody then controller.stop else .done controller

def shutDown (controller : Controller) : Dialogue Controller := do
  tell .info "Shutdown requested..."
  return { controller with stopped := true }

/-- Counts a failure that nobody expected; every other end of a pass has been booked. -/
def absorb (controller : Controller) : Except Failure PassResult → Dialogue Controller
  | .ok _ | .error (.step _) => .done controller
  | .error failure => do
    tell .error ("Unexpected error reconciling " ++ controller.ns ++ ": " ++ failure.text)
    return { controller with failures := controller.failures + 1 }

/-- What keeps a controller from waiting; one that is stopped does not wait. -/
def waitError? (controller : Controller) : Option WaitError :=
  if controller.stopped then none else controller.interval.waitError?

/-- Runs a pass as part of a run, and says how the run ends if it ends with this pass. -/
def turn (controller : Controller) (pass : Dialogue PassResult) :
    Dialogue (Controller × Option Ending) := do
  let (outcome, controller) ← controller.reconcileOnce pass
  match outcome with
  | .error (.call .interrupt) =>
    let controller ← controller.shutDown
    return (controller, some .interrupted)
  | outcome =>
    let controller ← controller.absorb outcome
    return (controller, controller.waitError?.map .cannotWait)

/-- Runs passes, of which `number` is the next. `pass number` is what that pass does, and
`stops number` says that somebody stops the controller as it begins. -/
def passes (pass : Nat → Dialogue PassResult) (stops : Nat → Bool) :
    (fuel number : Nat) → Controller → Dialogue (Controller × Ending)
  | 0, _, controller => .done (controller, if controller.stopped then .stopped else .unfinished)
  | fuel + 1, number, controller =>
    if controller.stopped then .done (controller, .stopped)
    else do
      let controller ← controller.stopIf (stops number)
      match ← controller.turn (pass number) with
      | (controller, some ending) => return (controller, ending)
      | (controller, none) => passes pass stops fuel (number + 1) controller

def banner : String := String.ofList (List.replicate 60 '=')

def run (controller : Controller) (pass : Nat → Dialogue PassResult) (stops : Nat → Bool)
    (fuel : Nat) : Dialogue (Controller × Ending) := do
  tell .info banner
  tell .info "Starting Registry Cache Monitoring controller"
  tell .info banner
  tell .info ("Namespace: " ++ controller.ns)
  tell .info ("Interval: " ++ controller.interval.text ++ "s")
  passes pass stops fuel 1 controller

end Controller
end Upkeep
