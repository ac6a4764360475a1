import Upkeep.Cluster.Kind
import Upkeep.Cluster.Object
import Upkeep.Number.Numeral

/-!
Requests to the API and the ways in which one can fail. An error answer of the API and a failure of
the transport are expected at any time; everything else is not.
-/
namespace Upkeep

inductive Verb where
  | get
  | create
  | patch
  | delete
  deriving DecidableEq

def Verb.word : Verb → String
  | get => "get"
  | create => "create"
  | patch => "patch"
  | delete => "delete"

/-- What is to be done; a patch is a merge patch. -/
inductive Action where
  | get
  | create (object : Json)
  | patch (change : Json)
  | delete

def Action.verb : Action → Verb
  | get => .get
  | create _ => .create
  | patch _ => .patch
  | delete => .delete

/-- What is asked of the API. The namespace and the name of an object to be created are what the
object itself says. -/
structure Request where
  action : Action
  kind : Kind
  ns : Json
  name : Json
  /-- In seconds. -/
  timeout : Option Seconds

inductive CallError where
  /-- The API answered with an error. -/
  | api (status : Option Int) (reason : Option String)
  /-- No answer came; `failure` names the kind of failure. -/
  | transport (failure text : String)
  | runtime (text : String)
  /-- The operator ended the program. -/
  | interrupt
  /-- The stored object has not the form that the request needs. -/
  | malformed (bad : Malformed)
  deriving DecidableEq

namespace CallError

def notFound : CallError := .api (some 404) (some "Not Found")

def conflict : CallError := .api (some 409) (some "Conflict")

/-- An error that any request can meet. -/
def isExpected : CallError → Bool
  | .api .. | .transport .. => true
  | _ => false

def isNotFound : CallError → Bool
  | .api status _ => status = some 404
  | _ => false

/-- The text of a status; a missing one is spelled out. -/
def statusText : Option Int → String
  | some status => String.ofList (writeInt status)
  | none => "None"

def reason : CallError → String
  | .api status none => "HTTP " ++ statusText status
  | .api status (some given) => if given = "" then "HTTP " ++ statusText status else given
  | .transport failure text => failure ++ ": " ++ text
  | .runtime text => "RuntimeError: " ++ text
  | .interrupt => "KeyboardInterrupt: "
  | .malformed bad => bad.message

/-- The text of an error that nobody expected. -/
def text : CallError → String
  | .runtime text => text
  | other => other.reason

end CallError
end Upkeep
