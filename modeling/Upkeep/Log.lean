/-!
Log entries: what a run tells its operator. An entry names the part that wrote it.
-/
namespace Upkeep.Log

inductive Level where
  | debug
  | info
  | error
  deriving DecidableEq

def Level.word : Level → String
  | debug => "DEBUG"
  | info => "INFO"
  | error => "ERROR"

def Level.rank : Level → Nat
  | debug => 10
  | info => 20
  | error => 40

inductive Part where
  | client
  | detector
  | cleaner
  | upserter
  | reconciler
  | controller
  | relabelling
  | commandLine
  deriving DecidableEq

def Part.word : Part → String
  | client => "object_client"
  | detector => "schema"
  | cleaner => "cleaner"
  | upserter => "upserter"
  | reconciler => "reconciler"
  | controller => "controller"
  | relabelling => "relabel"
  | commandLine => "run"

structure Entry where
  level : Level
  part : Part
  message : String
  deriving DecidableEq

def atLeast (level : Level) (entries : List Entry) : List Entry :=
  entries.filter fun entry => level.rank ≤ entry.level.rank

end Upkeep.Log
