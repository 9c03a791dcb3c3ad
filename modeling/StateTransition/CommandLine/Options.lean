import StateTransition.Configuration
import StateTransition.Quantity

/-!
The options of the command line. An option is written `--name value` or `--name=value`; a value that
is an argument of its own does not start with a hyphen, unless it is nothing else. There are no
positional arguments.
-/

namespace StateTransition.CommandLine

inductive Flag where
  | config
  | fork
  | fixtures
  | noBuiltin
  | filter
  | threads
  | maxSteps
  | gasCeiling
  | chainId
  | report
  | logLevel
  | jsonLogs
  deriving DecidableEq, Repr

def Flag.named : List (String × Flag) :=
  [("config", .config), ("fork", .fork), ("fixtures", .fixtures), ("no-builtin", .noBuiltin),
   ("filter", .filter), ("threads", .threads), ("max-steps", .maxSteps),
   ("gas-ceiling", .gasCeiling), ("chain-id", .chainId), ("report", .report),
   ("log-level", .logLevel), ("json-logs", .jsonLogs)]

structure Options where
  config : Option String := none
  forks : List Fork := []
  fixtures : List String := []
  noBuiltin : Bool := false
  filter : Option String := none
  threads : Option UInt64 := none
  maxSteps : Option UInt64 := none
  gasCeiling : Option UInt64 := none
  chainId : Option UInt64 := none
  report : Option String := none
  logLevel : Option String := none
  jsonLogs : Bool := false
  deriving DecidableEq, Repr

inductive Refusal where
  | help
  | usage
  deriving DecidableEq, Repr

structure Occurrence where
  argument : String
  following : List String
  deriving DecidableEq, Repr

def isPlain (argument : String) : Bool := !argument.startsWith "-" || argument == "-"

def occurrences : List String → List String × List Occurrence
  | [] => ([], [])
  | argument :: rest =>
    let (plain, later) := occurrences rest
    if isPlain argument then (argument :: plain, later) else ([], ⟨argument, plain⟩ :: later)

def splitAttached (name : List Char) : String × Option String :=
  match name.span (· ≠ '=') with
  | (name, []) => (String.ofList name, none)
  | (name, _ :: value) => (String.ofList name, some (String.ofList value))

def nonempty (value : String) : Except Refusal String :=
  if value.isEmpty then throw .usage else pure value

def decimal? (digits : List Char) : Option Nat :=
  if digits.isEmpty then none else Quantity.ofDigits? Quantity.decimalDigit? 10 digits

def number (value : String) : Except Refusal UInt64 :=
  let digits :=
    match value.toList with
    | '+' :: digits => digits
    | digits => digits
  match decimal? digits with
  | some number => if number < UInt64.size then pure (UInt64.ofNat number) else throw .usage
  | none => throw .usage

def forkList (value : String) : Except Refusal (List Fork) :=
  (value.splitOn ",").mapM fun name =>
    match Fork.ofName? name with
    | some fork => pure fork
    | none => throw .usage

def singleValue (attached : Option String) (following : List String) : Except Refusal String :=
  match attached, following with
  | some value, [] => pure value
  | none, [value] => pure value
  | _, _ => throw .usage

def severalValues (attached : Option String) (following : List String) :
    Except Refusal (List String) :=
  match attached, following with
  | some value, [] => pure [value]
  | none, value :: more => pure (value :: more)
  | _, _ => throw .usage

def switch (given : Bool) (attached : Option String) (following : List String) :
    Except Refusal Bool :=
  if given || attached.isSome || !following.isEmpty then throw .usage else pure true

def once {α : Type} (given : Option α) (value : α) : Except Refusal (Option α) :=
  if given.isSome then throw .usage else pure (some value)

namespace Options

def addFlag (options : Options) (flag : Flag) (attached : Option String) (following : List String) :
    Except Refusal Options := do
  let single := singleValue attached following
  match flag with
  | .config => return { options with config := ← once options.config (← nonempty (← single)) }
  | .fork => return { options with forks := options.forks ++ (← forkList (← single)) }
  | .fixtures =>
    let paths ← (← severalValues attached following).mapM nonempty
    return { options with fixtures := options.fixtures ++ paths }
  | .noBuiltin =>
    return { options with noBuiltin := ← switch options.noBuiltin attached following }
  | .filter => return { options with filter := ← once options.filter (← single) }
  | .threads => return { options with threads := ← once options.threads (← number (← single)) }
  | .maxSteps => return { options with maxSteps := ← once options.maxSteps (← number (← single)) }
  | .gasCeiling =>
    return { options with gasCeiling := ← once options.gasCeiling (← number (← single)) }
  | .chainId => return { options with chainId := ← once options.chainId (← number (← single)) }
  | .report => return { options with report := ← once options.report (← nonempty (← single)) }
  | .logLevel => return { options with logLevel := ← once options.logLevel (← single) }
  | .jsonLogs => return { options with jsonLogs := ← switch options.jsonLogs attached following }

def helpArguments : List String := ["--help", "-h", "--version", "-V"]

def add (options : Options) (occurrence : Occurrence) : Except Refusal Options :=
  if helpArguments.contains occurrence.argument then throw .help
  else
    match occurrence.argument.toList with
    | '-' :: '-' :: name =>
      let (name, attached) := splitAttached name
      match Flag.named.lookup name with
      | some flag => options.addFlag flag attached occurrence.following
      | none => throw .usage
    | _ => throw .usage

/-- Reads the arguments; after `--` there may be none. -/
def parse (arguments : List String) : Except Refusal Options := do
  let (before, after) := arguments.span (· ≠ "--")
  let (plain, options) := occurrences before
  if !plain.isEmpty then throw .usage
  let parsed ← options.foldlM add {}
  if 1 < after.length then throw .usage
  return parsed

def applyTo (options : Options) (configuration : Configuration) : Configuration :=
  { configuration with
    forks := if options.forks.isEmpty then configuration.forks else options.forks
    fixtures := configuration.fixtures ++ options.fixtures
    builtin := configuration.builtin && !options.noBuiltin
    filter := options.filter.or configuration.filter
    threads := options.threads.getD configuration.threads
    maxSteps := options.maxSteps.or configuration.maxSteps
    gasCeiling := options.gasCeiling.or configuration.gasCeiling
    chainId := options.chainId.getD configuration.chainId }

end Options

end StateTransition.CommandLine
