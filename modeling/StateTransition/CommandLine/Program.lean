import StateTransition.CommandLine.Options
import StateTransition.Fixture.Scenario
import StateTransition.Json.Writer
import StateTransition.Scenario.Suite

/-!
What the program does with its arguments: it loads the configuration and the fixtures, runs the
scenarios, prints a summary and writes a report. Files are reached through a record of operations,
so that the program is a function in any monad that provides them.
-/

namespace StateTransition.CommandLine

structure Surroundings (m : Type → Type) where
  read : String → m (Option String)
  write : String → String → m Bool
  clock : m Nat

structure Outcome where
  exitCode : UInt8
  output : List String
  errors : List String
  deriving DecidableEq, Repr

namespace Outcome

def failed (output : List String) (message : String) (cause : Option String) : Outcome where
  exitCode := 1
  output := output
  errors :=
    ("Error: " ++ message) :: cause.elim [] fun cause => ["", "Caused by:", "    " ++ cause]

/-- The run stopped on an overflow. -/
def stopped : Outcome := ⟨101, [], [Evm.ExecutionError.overflow.message]⟩

def helpLines : List String :=
  ["Run state-transition scenarios across forks", "", "Options:"] ++
    Flag.named.map fun (name, _) => "      --" ++ name

def refused : Refusal → Outcome
  | .help => ⟨0, helpLines, []⟩
  | .usage => ⟨2, [], ["error: the arguments are not understood; try --help"]⟩

end Outcome

def durationText (milliseconds : Nat) : String :=
  let hundredths := Rounding.roundDiv milliseconds 10
  let places := toString (hundredths % 100)
  toString (hundredths / 100) ++ "." ++
    (if hundredths % 100 < 10 then "0" ++ places else places) ++ "s"

section

variable {m : Type → Type} [Monad m]

abbrev Attempt (m : Type → Type) (α : Type) := ExceptT Outcome m α

def readFile (surroundings : Surroundings m) (context path : String) : Attempt m String := do
  match ← surroundings.read path with
  | some text => return text
  | none => throw (.failed [] (context ++ path) (some "IO error: the file cannot be read"))

def loadConfiguration (surroundings : Surroundings m) (path : Option String) :
    Attempt m Configuration := do
  match path with
  | none => return {}
  | some path =>
    let context := "loading config "
    match Configuration.parse (← readFile surroundings context path) with
    | .ok configuration => return configuration
    | .error cause => throw (.failed [] (context ++ path) (some cause.message))

def loadFixture (surroundings : Surroundings m) (path : String) : Attempt m (List Scenario) := do
  let context := "loading fixture "
  match Fixture.parse (← readFile surroundings context path) with
  | .ok scenarios => return scenarios
  | .error cause => throw (.failed [] (context ++ path) (some cause.message))

def loadSuite (surroundings : Surroundings m) (configuration : Configuration) :
    Attempt m (List Scenario) := do
  let loaded ← configuration.fixtures.mapM (loadFixture surroundings)
  return (if configuration.builtin then Scenario.Suite.all else []) ++ loaded.flatten

def reportText (result : Scenario.RunResult) : String :=
  (Json.ofList Scenario.Report.toJson result.reports).pretty 0

def configure (surroundings : Surroundings m) (options : Options) : Attempt m Configuration := do
  let configuration := options.applyTo (← loadConfiguration surroundings options.config)
  match configuration.validate with
  | .ok () => return configuration
  | .error cause => throw (.failed [] cause.message none)

def runOptions (surroundings : Surroundings m) (options : Options) : Attempt m Outcome := do
  let configuration ← configure surroundings options
  let suite ← loadSuite surroundings configuration
  let started ← surroundings.clock
  let some result := Scenario.run configuration.runSettings suite | throw .stopped
  let ended ← surroundings.clock
  let output := result.statistics.summary (durationText (ended - started))
  if let some path := options.report then
    if !(← surroundings.write path (reportText result)) then
      throw (.failed output ("creating report " ++ path) (some "the file cannot be written"))
  return ⟨if result.statistics.allPassed then 0 else 1, output, []⟩

def program (surroundings : Surroundings m) (arguments : List String) : m Outcome := do
  match Options.parse arguments with
  | .error refusal => return .refused refusal
  | .ok options =>
    match ← (runOptions surroundings options).run with
    | .ok outcome => return outcome
    | .error outcome => return outcome

end

end StateTransition.CommandLine
