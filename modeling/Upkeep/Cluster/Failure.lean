import Upkeep.Cluster.Request
import Upkeep.Cluster.Target
import Upkeep.Number.Limit

/-!
How a pass can fail. An expected error of a request becomes a step error, which says what was being
done to which object; everything else is passed on as it is.
-/
namespace Upkeep

inductive Stage where
  | reading
  | writing
  | deleting
  | reconciling
  deriving DecidableEq

def Stage.word : Stage → String
  | reading => "reading"
  | writing => "writing"
  | deleting => "deleting"
  | reconciling => "reconciling"

/-- A failed step, with the object that it concerns. -/
structure StepError where
  stage : Stage
  kind : String
  name : String
  ns : String
  reason : Option String
  cause : Option CallError
  deriving DecidableEq

namespace StepError

def message (error : StepError) : String :=
  let object := error.kind ++ " " ++ error.ns ++ "/" ++ error.name
  let failed := "failed " ++ error.stage.word ++ " " ++ object
  match error.reason with
  | none | some "" => failed
  | some reason => failed ++ ": " ++ reason

/-- The error of a step on a target that met an error of a request. -/
def ofCall (stage : Stage) (target : Target) (error : CallError) : StepError where
  stage := stage
  kind := target.kind.name
  name := target.name
  ns := target.ns
  reason := some error.reason
  cause := some error

end StepError

inductive Failure where
  | step (error : StepError)
  | call (error : CallError)
  | malformed (bad : Malformed)
  /-- A patch has no text that could be logged. -/
  | unwritable (bad : Unwritable)
  deriving DecidableEq

namespace Failure

def text : Failure → String
  | .step error => error.message
  | .call error => error.text
  | .malformed bad => bad.message
  | .unwritable bad => bad.message

/-- Tags an expected error of a request with a step. -/
def tagged (stage : Stage) (target : Target) : Failure → Failure
  | .call error => if error.isExpected then .step (.ofCall stage target error) else .call error
  | other => other

end Failure
end Upkeep
