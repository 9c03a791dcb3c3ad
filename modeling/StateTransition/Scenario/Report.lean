import StateTransition.Evm.Execution
import StateTransition.Json.Domain
import StateTransition.Percentage
import StateTransition.Scenario

namespace StateTransition.Scenario

inductive Verdict where
  | notSetUp (cause : SetupError)
  | abandoned (outcome : Evm.Outcome) (gasUsed : Nat) (cause : Option Evm.ExecutionError)
  | finished (outcome : Evm.Outcome) (gasUsed : Nat) (mismatches : List Mismatch)
  deriving DecidableEq, Repr

structure Report where
  name : String
  fork : Fork
  verdict : Verdict
  deriving DecidableEq, Repr

namespace Verdict

def outcome? : Verdict → Option Evm.Outcome
  | notSetUp _ => none
  | abandoned outcome _ _ => some outcome
  | finished outcome _ _ => some outcome

def gasUsed : Verdict → Nat
  | notSetUp _ => 0
  | abandoned _ gas _ => gas
  | finished _ gas _ => gas

def isAbandoned : Verdict → Bool
  | abandoned .. => true
  | _ => false

def error? : Verdict → Option String
  | notSetUp cause => some ("setup: " ++ cause.message)
  | abandoned _ _ cause => some ("aborted: " ++ cause.elim "" Evm.ExecutionError.message)
  | finished .. => none

def mismatches : Verdict → List Mismatch
  | finished _ _ mismatches => mismatches
  | _ => []

def passed (verdict : Verdict) : Bool := verdict.error?.isNone && verdict.mismatches.isEmpty

def reason (verdict : Verdict) : String :=
  verdict.error?.getD ("; ".intercalate (verdict.mismatches.map Mismatch.text))

end Verdict

namespace Report

def id (report : Report) : String := report.name ++ " [" ++ report.fork.name ++ "]"

def passed (report : Report) : Bool := report.verdict.passed

def reason (report : Report) : String := report.verdict.reason

end Report

def Field.toJson : Field → Json
  | existence => .text "Existence"
  | balance => .text "Balance"
  | nonce => .text "Nonce"
  | code => .text "Code"
  | storage key => .record [("Storage", .text key.hexText)]

def Mismatch.toJson (mismatch : Mismatch) : Json := .record
  [("address", mismatch.address.toJson), ("field", mismatch.field.toJson),
   ("expected", .text mismatch.expected), ("actual", .text mismatch.actual)]

def Report.fields (report : Report) : List (String × Json) :=
  let verdict := report.verdict
  [("name", .text report.name), ("fork", report.fork.toJson), ("passed", .boolean report.passed),
   ("outcome", Json.ofOption (fun outcome => .text outcome.text) verdict.outcome?),
   ("gas_used", .natural verdict.gasUsed), ("aborted", .boolean verdict.isAbandoned),
   ("error", Json.ofOption .text verdict.error?),
   ("mismatches", Json.ofList Mismatch.toJson verdict.mismatches)]

def Report.toJson (report : Report) : Json := .record report.fields

structure Statistics where
  total : Nat := 0
  passed : Nat := 0
  failed : Nat := 0
  skipped : Nat := 0
  failures : List (String × String) := []
  deriving DecidableEq, Repr

namespace Statistics

def record (statistics : Statistics) (report : Report) : Statistics :=
  if report.passed then
    { statistics with total := statistics.total + 1, passed := statistics.passed + 1 }
  else
    { statistics with
      total := statistics.total + 1
      failed := statistics.failed + 1
      failures := statistics.failures ++ [(report.id, report.reason)] }

def allPassed (statistics : Statistics) : Bool := statistics.failed == 0

def passRate (statistics : Statistics) : String :=
  Percentage.text statistics.passed statistics.total

def rule : String := "========================================"

def failureLines (statistics : Statistics) : List String :=
  if statistics.failures.isEmpty then []
  else
    ["", "Failed scenarios:"] ++
      statistics.failures.map fun (id, reason) => "  - " ++ id ++ ": " ++ reason

def summary (statistics : Statistics) (duration : String) : List String :=
  ["", rule, "State Test Summary", rule,
   "Total:   " ++ toString statistics.total,
   "Passed:  " ++ toString statistics.passed,
   "Failed:  " ++ toString statistics.failed,
   "Skipped: " ++ toString statistics.skipped,
   "Pass Rate: " ++ statistics.passRate ++ "%",
   "Duration: " ++ duration] ++ statistics.failureLines

end Statistics

end StateTransition.Scenario
