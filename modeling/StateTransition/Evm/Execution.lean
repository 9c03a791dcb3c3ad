import StateTransition.Evm.FrameStack
import StateTransition.Evm.Validation

/-!
Executing a signed transaction: it is checked, charged up front, run, and settled. A rejected or
abandoned transaction leaves the world as it was.
-/

namespace StateTransition.Evm

/-- Limits of an engine; without a number there is no limit. -/
structure Limits where
  maxSteps : Option UInt64 := none
  gasCeiling : Option UInt64 := none
  deriving DecidableEq, Repr, Inhabited

inductive Abandonment where
  | gasCeilingExceeded (limit ceiling : UInt64)
  | stepLimitExceeded (limit : UInt64)
  deriving DecidableEq, Repr

namespace Abandonment

def message : Abandonment → String
  | gasCeilingExceeded limit ceiling =>
    "gas limit " ++ toString limit.toNat ++ " exceeds engine ceiling " ++ toString ceiling.toNat
  | stepLimitExceeded limit => "step limit of " ++ toString limit.toNat ++ " reached"

end Abandonment

inductive Outcome where
  | success
  | revert
  | outOfGas
  /-- Any halt but running out of gas. -/
  | invalidOpcode
  | fatal
  /-- A sum or a product left its range: the engine stops without a result. -/
  | overflow
  deriving DecidableEq, Repr

def Outcome.text : Outcome → String
  | success => "success"
  | revert => "revert"
  | outOfGas => "out-of-gas"
  | invalidOpcode => "invalid-opcode"
  | fatal => "fatal"
  | overflow => "overflow"

inductive ExecutionError where
  | halted (reason : Halt)
  | rejected (reason : Rejection)
  | abandoned (reason : Abandonment)
  | overflow
  deriving DecidableEq, Repr

def ExecutionError.message : ExecutionError → String
  | halted reason => reason.message
  | rejected reason => reason.message
  | abandoned reason => reason.message
  | overflow => "arithmetic operation overflow"

structure ExecutionResult where
  outcome : Outcome
  error : Option ExecutionError
  gasUsed : Nat
  gasRefunded : Nat
  output : Bytes
  logs : List Log
  contractAddress : Option Address
  post : World
  diff : StateDiff
  aborted : Bool
  deriving DecidableEq, Repr

namespace ExecutionResult

def unchanged (world : World) (outcome : Outcome) (error : ExecutionError) (aborted : Bool) :
    ExecutionResult where
  outcome := outcome
  error := some error
  gasUsed := 0
  gasRefunded := 0
  output := []
  logs := []
  contractAddress := none
  post := world
  diff := ∅
  aborted := aborted

def rejected (world : World) (reason : Rejection) : ExecutionResult :=
  unchanged world .fatal (.rejected reason) false

def abandoned (world : World) (error : ExecutionError) : ExecutionResult :=
  unchanged world .outOfGas error true

/-- Stands for an execution that stopped on an overflow, and so has no result. -/
def overflowed (world : World) : ExecutionResult := unchanged world .overflow .overflow false

def isSuccess (result : ExecutionResult) : Bool := result.outcome == .success

end ExecutionResult

/-- More instructions than any amount of gas pays for. -/
def unlimitedSteps : Nat := 2 * UInt64.size

def Limits.steps (limits : Limits) : Nat := limits.maxSteps.elim unlimitedSteps UInt64.toNat

def warmItem (journal : Journal) (item : AccessListItem) : Journal :=
  item.storageKeys.foldl (fun journal key => (journal.warmSlot item.address key.toWord).2)
    (journal.warmAccount item.address).2

def warmAccounts (journal : Journal) (addresses : List Address) : Journal :=
  addresses.foldl (fun journal address => (journal.warmAccount address).2) journal

def prewarm (rules : Rules) (environment : Environment) (tx : Transaction) (sender target : Address)
    (journal : Journal) : Journal :=
  let listed :=
    if rules.defines .coldAccountAccess then
      let known := warmAccounts journal (sender :: target :: Precompile.all.map Precompile.address)
      tx.accessList.foldl warmItem known
    else journal
  if rules.isActive .warmCoinbase then (listed.warmAccount environment.coinbase).2 else listed

def Attempt.ofTransaction (tx : Transaction) (sender : Address) (gas : Nat) : Attempt :=
  match tx.recipient with
  | some recipient =>
    .call {
      scheme := .call
      caller := sender
      address := recipient
      codeAddress := recipient
      value := tx.value
      transfers := true
      input := tx.data
      gas
      isStatic := false
      depth := 0
      returnOffset := 0
      returnSize := 0 }
  | none =>
    .deploy
      { caller := sender, value := tx.value, initCode := tx.data, salt := none, gas, depth := 0 }
      (createAddress sender tx.nonce)

def classify : FrameStatus → Outcome × Option ExecutionError
  | .success => (.success, none)
  | .revert => (.revert, none)
  | .halt .outOfGas => (.outOfGas, some (.halted .outOfGas))
  | .halt reason => (.invalidOpcode, some (.halted reason))

/-- The part of the refund counter that is paid: at most a fraction of what was spent. -/
def refundFor (rules : Rules) (journal : Journal) (spent : Nat) : Nat :=
  min journal.refund.toNat (spent / max (rules.amount .maxRefundQuotient) 1)

/-- What the coinbase gets for a unit of gas; the base fee goes to nobody. -/
def minerPrice (rules : Rules) (environment : Environment) (gasPrice : Word) : Word :=
  if rules.isActive .baseFee then
    if gasPrice < environment.baseFee then 0#256 else gasPrice - environment.baseFee
  else gasPrice

structure GasBill where
  used : Nat
  refunded : Nat
  deriving DecidableEq, Repr

def GasBill.of (rules : Rules) (tx : Transaction) (completion : Completion) : GasBill :=
  let spent := tx.gasLimit.toNat - completion.result.gasLeft
  let refunded := refundFor rules completion.journal spent
  ⟨spent - refunded, refunded⟩

def repayment (setting : Setting) (tx : Transaction) (bill : GasBill) : Word :=
  setting.gasPrice * Word.ofNat (tx.gasLimit.toNat - bill.used)

def reward (setting : Setting) (bill : GasBill) : Word :=
  minerPrice setting.rules setting.environment setting.gasPrice * Word.ofNat bill.used

/-- Gives back the gas that is left, pays the coinbase, and closes the journal. -/
def settleFees (setting : Setting) (world : World) (tx : Transaction)
    (completion : Completion) : ExecutionResult :=
  let result := completion.result
  let bill := GasBill.of setting.rules tx completion
  let coinbase := setting.environment.coinbase
  let repaid := completion.journal.addBalance setting.origin (repayment setting tx bill)
  let paid := repaid.addBalance coinbase (reward setting bill)
  let (post, logs) :=
    (paid.touch coinbase).finish (setting.rules.isActive .emptyAccountCleanup)
  let (outcome, error) := classify result.status
  { outcome
    error
    gasUsed := bill.used
    gasRefunded := bill.refunded
    output := result.output
    logs
    contractAddress :=
      if tx.isCreate && result.isSuccess then some (createAddress setting.origin tx.nonce)
      else none
    post
    diff := World.diff world post
    aborted := false }

def Accepted.setting (accepted : Accepted) (rules : Rules) (environment : Environment) : Setting :=
  { environment, rules, origin := accepted.sender, gasPrice := accepted.gasPrice }

inductive ChargeFailure where
  | overflow
  | insufficientFunds (cause : InsufficientFunds)
  deriving DecidableEq, Repr

/-- Takes the price of the whole gas limit from the sender. A price that is no word stops the
engine. -/
def charge (world : World) (tx : Transaction) (accepted : Accepted) :
    Except ChargeFailure Journal :=
  if accepted.gasPrice.toNat * tx.gasLimit.toNat < Word.modulus then
    ((Journal.start world).subBalance accepted.sender
      (accepted.gasPrice * Word.ofNat tx.gasLimit.toNat)).mapError .insufficientFunds
  else .error .overflow

def prepare (rules : Rules) (environment : Environment) (tx : Transaction) (accepted : Accepted)
    (charged : Journal) : Journal :=
  let sender := accepted.sender
  let target := tx.recipient.getD (createAddress sender tx.nonce)
  prewarm rules environment tx sender target (charged.bumpNonce sender)

/-- Makes the call or creation of a transaction; nothing if the steps do not suffice. -/
def runTransaction (rules : Rules) (limits : Limits) (environment : Environment)
    (tx : Transaction) (accepted : Accepted) (charged : Journal) : Option Ending :=
  let setting := accepted.setting rules environment
  let gas := tx.gasLimit.toNat - accepted.intrinsic
  let (entry, journal) := (Attempt.ofTransaction tx accepted.sender gas).enter setting
    (prepare rules environment tx accepted charged)
  runEntry setting limits.steps entry journal

def transact (rules : Rules) (limits : Limits) (world : World) (environment : Environment)
    (tx : Transaction) (accepted : Accepted) : ExecutionResult :=
  match charge world tx accepted with
  | .error .overflow => .overflowed world
  | .error (.insufficientFunds cause) => .abandoned world (.rejected (.insufficientFunds cause))
  | .ok charged =>
    match runTransaction rules limits environment tx accepted charged with
    | some (.overflowed _) => .overflowed world
    | some (.finished completion) => settleFees (accepted.setting rules environment) world tx completion
    | none => .abandoned world (.abandoned (.stepLimitExceeded (limits.maxSteps.getD 0)))

/-- Executes a signed transaction on a world at the rules of a fork. -/
def execute (rules : Rules) (limits : Limits) (world : World) (environment : Environment)
    (signed : SignedTransaction) : ExecutionResult :=
  match validate rules world environment signed with
  | .error reason => .rejected world reason
  | .ok accepted =>
    let limit := signed.tx.gasLimit
    match limits.gasCeiling with
    | some ceiling =>
      if ceiling < limit then .abandoned world (.abandoned (.gasCeilingExceeded limit ceiling))
      else transact rules limits world environment signed.tx accepted
    | none => transact rules limits world environment signed.tx accepted

end StateTransition.Evm
