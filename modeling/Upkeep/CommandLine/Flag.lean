/-!
The options of the command line: how each is spelled and how many values it takes.
-/
namespace Upkeep.CommandLine

inductive Flag where
  | help
  | ns
  | once
  | interval
  | requestTimeout
  | dryRun
  | inCluster
  | checkTarget
  | verbose
  deriving DecidableEq

inductive Arity where
  | nothing
  | one
  /-- One or more. -/
  | several
  deriving DecidableEq

namespace Flag

def all : List Flag :=
  [help, ns, once, interval, requestTimeout, dryRun, inCluster, checkTarget, verbose]

def spellings : Flag → List String
  | help => ["-h", "--help"]
  | ns => ["--namespace", "-n"]
  | once => ["--once"]
  | interval => ["--interval"]
  | requestTimeout => ["--request-timeout"]
  | dryRun => ["--dry-run"]
  | inCluster => ["--in-cluster"]
  | checkTarget => ["--check-target"]
  | verbose => ["--verbose", "-v"]

def arity : Flag → Arity
  | ns | interval | requestTimeout => .one
  | checkTarget => .several
  | help | once | dryRun | inCluster | verbose => .nothing

def display (flag : Flag) : String := "/".intercalate flag.spellings

/-- All spellings in order, each with its option. -/
def table : List (List Char × Flag) :=
  all.flatMap fun flag => flag.spellings.map fun spelling => (spelling.toList, flag)

/-- The option that is spelled like this. -/
def ofSpelling? (word : List Char) : Option Flag :=
  (table.find? fun entry => entry.1 = word).map Prod.snd

/-- The spellings that begin like this. -/
def beginning (word : List Char) : List (List Char × Flag) :=
  table.filter fun entry => word.isPrefixOf entry.1

end Flag
end Upkeep.CommandLine
