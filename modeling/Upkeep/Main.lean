import Upkeep.CommandLine.Program

/-!
The program. It reads the command line, does what is asked for and shows what is to be said. No
connection to a cluster is part of it, so loading the configuration of one fails.
-/
namespace Upkeep.CommandLine

def display (level : Log.Level) (entries : List Log.Entry) : IO Unit :=
  (Log.atLeast level entries).forM fun entry =>
    IO.eprintln (entry.part.word ++ " - " ++ entry.level.word ++ " - " ++ entry.message)

def usage : String :=
  "usage: upkeep [-h] [--namespace NAMESPACE] [--once] [--interval INTERVAL] " ++
    "[--request-timeout REQUEST_TIMEOUT] [--dry-run] [--in-cluster] " ++
    "[--check-target LABEL=VALUE [LABEL=VALUE ...]] [--verbose]"

def refuse (error : UsageError) : IO UInt32 := do
  IO.eprintln usage
  IO.eprintln ("upkeep: error: " ++ error.message)
  return 2

/-- Keeps a namespace up to date, as far as that goes without a cluster. -/
def keep (level : Log.Level) (job : Job) : IO UInt32 := do
  let outcome := (job.carryOut (.error "no cluster is connected") 0).run (.faultless .empty)
  display level outcome.entries
  match outcome.result with
  | .ok code => return (code.getD 0).toUInt32
  | .error failure =>
    IO.eprintln failure.text
    return 1

end Upkeep.CommandLine

open Upkeep.CommandLine in
def main (words : List String) : IO UInt32 := do
  match Options.ofWords words with
  | .error .help =>
    IO.println usage
    return 0
  | .error (.usage error) => refuse error
  | .ok options =>
    match options.command with
    | .error error => refuse error
    | .ok (.checkTarget arguments) =>
      display options.level (checkTarget arguments).entries
      return (checkTarget arguments).code.toUInt32
    | .ok (.keep job) => keep options.level job
