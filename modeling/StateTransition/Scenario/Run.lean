import StateTransition.Fork.Mainnet
import StateTransition.Scenario.Report

/-!
Running scenarios at the forks they apply to. Every pair of a scenario and a fork is run by itself,
so the reports do not depend on the order in which the pairs are run; they are sorted by name and
fork.
-/

namespace StateTransition.Scenario

structure RunSettings where
  forks : List Fork := Fork.all
  limits : Evm.Limits := {}
  chainId : UInt64 := 1
  filter : Option String := none

structure RunResult where
  statistics : Statistics
  reports : List Report

def containsPart (part : List Char) : List Char → Bool
  | [] => part.isEmpty
  | c :: rest => part.isPrefixOf (c :: rest) || containsPart part rest

namespace RunSettings

def selects (settings : RunSettings) (scenario : Scenario) : Bool :=
  settings.filter.all fun part => containsPart part.toList scenario.name.toList

def pairs (settings : RunSettings) (scenarios : List Scenario) : List (Scenario × Fork) :=
  (scenarios.filter settings.selects).flatMap fun scenario =>
    settings.forks.map fun fork => (scenario, fork)

/-- Sets a scenario up, executes its transaction and verifies the world it leads to; nothing where
the execution stops on an overflow. -/
def verdict? (settings : RunSettings) (scenario : Scenario) (fork : Fork) : Option Verdict :=
  let rules := Mainnet.rules fork
  match scenario.plan rules settings.chainId with
  | .error cause => some (.notSetUp cause)
  | .ok plan =>
    let result := Evm.execute rules settings.limits plan.before plan.environment plan.transaction
    if result.outcome = .overflow then none
    else if result.aborted then some (.abandoned result.outcome result.gasUsed result.error)
    else some (.finished result.outcome result.gasUsed (verify plan.expected result.post))

def report? (settings : RunSettings) (scenario : Scenario) (fork : Fork) : Option Report :=
  (settings.verdict? scenario fork).map fun verdict => ⟨scenario.name, fork, verdict⟩

end RunSettings

def reportsInOrder (left right : Report) : Bool :=
  left.name < right.name || (left.name == right.name && left.fork ≤ right.fork)

def failuresInOrder (left right : String × String) : Bool :=
  left.1 < right.1 || (left.1 == right.1 && left.2 ≤ right.2)

def Statistics.ofReports (skipped : Nat) (reports : List Report) : Statistics :=
  let counted := reports.foldl Statistics.record { skipped }
  { counted with failures := counted.failures.mergeSort failuresInOrder }

/-- Runs what applies, and counts what does not. A single overflow stops the whole run. -/
def run (settings : RunSettings) (scenarios : List Scenario) : Option RunResult :=
  let (jobs, skipped) :=
    (settings.pairs scenarios).partition fun (scenario, fork) => scenario.appliesTo fork
  (jobs.mapM fun (scenario, fork) => settings.report? scenario fork).map fun reports =>
    ⟨.ofReports skipped.length reports, reports.mergeSort reportsInOrder⟩

end StateTransition.Scenario
