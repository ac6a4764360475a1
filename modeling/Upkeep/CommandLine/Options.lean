import Upkeep.CommandLine.Word
import Upkeep.Number.Numeral
import Upkeep.Wanted.Names

/-!
Reading the options of a command line, from left to right. Words that belong to no option are
collected and refused at the end; before that every option is read, so that a mistake in an option
is reported first, and help is given as soon as it is asked for.
-/
namespace Upkeep.CommandLine

structure Options where
  /-- The namespace, if the option is given; it may be given without a value. -/
  ns : Option (Option String)
  once : Bool
  interval : Seconds
  requestTimeout : Seconds
  dryRun : Bool
  inCluster : Bool
  checkTarget : Option (List String)
  verbose : Bool
  deriving DecidableEq

inductive Stop where
  | help
  | usage (error : UsageError)
  deriving DecidableEq

namespace Options

def default : Options where
  ns := none
  once := false
  interval := .whole Wanted.intervalSeconds
  requestTimeout := .whole Wanted.requestTimeoutSeconds
  dryRun := false
  inCluster := false
  checkTarget := none
  verbose := false

structure Use where
  flag : Flag
  values : List String

/-- The uses of options that one word makes, the last one apart: that option, and the text joined to
it. Short options without values may stand in one word. -/
def unfold (flag : Flag) (isShort : Bool) :
    List Char → Except Stop (List Use × Flag × Option String)
  | [] =>
    if flag.arity = .nothing then .error (.usage (.misused flag (.takesNothing "")))
    else .ok ([], flag, some "")
  | c :: rest =>
    if flag.arity ≠ .nothing then .ok ([], flag, some (String.ofList (c :: rest)))
    else
      match if isShort then Flag.ofSpelling? ['-', c] else none with
      | none => .error (.usage (.misused flag (.takesNothing (String.ofList (c :: rest)))))
      | some next =>
        if rest.isEmpty then .ok ([⟨flag, []⟩], next, none)
        else (unfold next isShort rest).map fun found => (⟨flag, []⟩ :: found.1, found.2)

/-- The words that an option takes from those behind it. -/
def valuesOf (flag : Flag) (rest : List (String × Word)) : Except Stop (List String) :=
  let offered := (rest.takeWhile fun entry => entry.2 = .value).map Prod.fst
  match flag.arity, offered with
  | .nothing, _ => .ok []
  | .one, value :: _ => .ok [value]
  | .one, [] => .error (.usage (.misused flag .needsOne))
  | .several, value :: more => .ok (value :: more)
  | .several, [] => .error (.usage (.misused flag .needsSome))

def number (flag : Flag) (values : List String) : Except Stop Seconds :=
  match values with
  | [] => .ok .absent
  | value :: _ =>
    match Numeral.seconds? value.toList with
    | some number => .ok number
    | none => .error (.usage (.misused flag (.notNumber value)))

/-- Puts one use of an option into effect. A separator that was joined to the option counts as no
value. -/
def use (options : Options) (use : Use) : Except Stop Options :=
  let values := use.values.erase "--"
  match use.flag with
  | .help => .error .help
  | .ns => .ok { options with ns := some values.head? }
  | .once => .ok { options with once := true }
  | .interval => (number .interval values).map fun value => { options with interval := value }
  | .requestTimeout =>
    (number .requestTimeout values).map fun value => { options with requestTimeout := value }
  | .dryRun => .ok { options with dryRun := true }
  | .inCluster => .ok { options with inCluster := true }
  | .checkTarget => .ok { options with checkTarget := some values }
  | .verbose => .ok { options with verbose := true }

def useAll (options : Options) : List Use → Except Stop Options
  | [] => .ok options
  | first :: rest =>
    match options.use first with
    | .ok options => useAll options rest
    | .error stop => .error stop

/-- The options in one word: those in front of the last, the last, and the text joined to it. -/
def inWord (flag : Flag) (spelling : List Char) :
    Option (List Char) → Except Stop (List Use × Flag × Option String)
  | none => .ok ([], flag, none)
  | some joined => unfold flag (spelling.length = 2) joined

/-- The uses that an option word makes, and how many of the words behind it they take. -/
def uses (flag : Flag) (spelling : List Char) (joined : Option (List Char))
    (rest : List (String × Word)) : Except Stop (List Use × Nat) :=
  match inWord flag spelling joined with
  | .error stop => .error stop
  | .ok (before, last, some text) => .ok (before ++ [⟨last, [text]⟩], 0)
  | .ok (before, last, none) =>
    (valuesOf last rest).map fun values => (before ++ [⟨last, values⟩], values.length)

/-- Reads words, passing over the first `taken`, which belong to an option. Gives the options and
the words that belong to none. -/
def readWords (options : Options) :
    (taken : Nat) → List (String × Word) → Except Stop (Options × List String)
  | _, [] => .ok (options, [])
  | taken + 1, _ :: rest => readWords options taken rest
  | 0, (_, .option flag spelling joined) :: rest =>
    match uses flag spelling joined rest with
    | .error stop => .error stop
    | .ok (uses, taken) =>
      match options.useAll uses with
      | .error stop => .error stop
      | .ok options => readWords options taken rest
  | 0, (word, _) :: rest =>
    (readWords options 0 rest).map fun found => (found.1, word :: found.2)

def ofWords (words : List String) : Except Stop Options :=
  match Word.classifyAll words with
  | .error error => .error (.usage error)
  | .ok classified =>
    match readWords default 0 classified with
    | .error stop => .error stop
    | .ok (options, []) => .ok options
    | .ok (_, extra) => .error (.usage (.unrecognized extra))

end Options
end Upkeep.CommandLine
