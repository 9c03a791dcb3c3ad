import StateTransition.Evm.Machine

namespace StateTransition.Evm

inductive Control where
  | next
  | stop
  | finish (output : Bytes)
  | revert (output : Bytes)
  | call (request : CallRequest)
  | create (request : CreateRequest)
  deriving DecidableEq, Repr

namespace Exec

def callSurcharge (rules : Rules) (journal : Journal) (scheme : CallScheme) (target : Address)
    (movesValue : Bool) : Nat :=
  let makesAccount :=
    if rules.isActive .emptyAccountCleanup then movesValue && journal.isEmptyAt target
    else !journal.contains target
  (if movesValue then rules.amount .callValueTransfer else 0) +
    if scheme == .call && makesAccount then rules.amount .callNewAccount else 0

def callParties (context : CallContext) (scheme : CallScheme) (target : Address) (value : Word) :
    Address × Address × Word :=
  match scheme with
  | .call => (context.address, target, value)
  | .callCode => (context.address, context.address, value)
  | .delegateCall => (context.caller, context.address, context.value)
  | .staticCall => (context.address, target, 0#256)

def call (setting : Setting) (scheme : CallScheme) : Exec Control := do
  let rules := setting.rules
  let requested ← pop
  let target ← popAddress
  let value ← if scheme == .call || scheme == .callCode then pop else pure 0#256
  let ranges ← popMany 4
  let movesValue := !value.isZero
  if scheme == .call && movesValue then requireNonStatic
  let (inputOffset, inputSize) ← memoryRange rules ranges[0] ranges[1]
  let (returnOffset, returnSize) ← memoryRange rules ranges[2] ranges[3]
  accessAccount rules target
  useGas (callSurcharge rules (← journal) scheme target movesValue)
  match Gas.forCall rules requested (← gas) with
  | none => throw .outOfGas
  | some handed =>
    useGas handed
    let stipend := if movesValue then rules.amount .callStipend else 0
    let context ← context
    let (caller, address, apparentValue) := callParties context scheme target value
    modifyFrame ({ · with returnData := [] })
    let input ← readBytes inputOffset inputSize
    return .call {
      scheme
      caller
      address
      codeAddress := target
      value := apparentValue
      transfers := scheme == .call || scheme == .callCode
      input
      gas := handed + stipend
      isStatic := context.isStatic || scheme == .staticCall
      depth := context.depth + 1
      returnOffset
      returnSize }

def create (setting : Setting) (salted : Bool) : Exec Control := do
  let rules := setting.rules
  requireNonStatic
  let (value, start, length) ← popThree
  let salt ← if salted then some <$> pop else pure none
  let (offset, size) ← memoryRange rules start length
  require ((rules.value .maxInitCodeSize).all fun limit => size ≤ limit.toNat)
    .maxInitCodeSizeExceeded
  useGas (Gas.initCode rules size)
  if salted then useGas (Gas.hashing rules size)
  let handed := Gas.forCreate rules (← gas)
  useGas handed
  modifyFrame ({ · with returnData := [] })
  let initCode ← readBytes offset size
  let context ← context
  return .create {
    caller := context.address
    value
    initCode
    salt
    gas := handed
    depth := context.depth + 1 }

/-- Whether giving the balance away makes a new account that has to be paid for. -/
def makesBeneficiary (rules : Rules) (journal : Journal) (balance : Word) (beneficiary : Address) :
    Bool :=
  if rules.isActive .emptyAccountCleanup then !balance.isZero && journal.isEmptyAt beneficiary
  else !journal.contains beneficiary

/-- Gives the balance of an account away and schedules the account for deletion. Where only new
accounts are deleted, others just lose their balance to another account. -/
def closeAccount (rules : Rules) (address beneficiary : Address) (journal : Journal) : Journal :=
  let destroys := !rules.isActive .selfdestructSameTxOnly || journal.isCreated address
  let refunded :=
    if destroys && !journal.isDestructed address then
      journal.addRefund (Gas.signed (rules.amount .selfdestructRefund))
    else journal
  let emptied :=
    if beneficiary ≠ address then
      (refunded.addBalance beneficiary (refunded.balance address)).setBalance address 0#256
    else if destroys then refunded.setBalance address 0#256
    else refunded
  let touched := emptied.touch beneficiary
  if destroys then (touched.markDestructed address).2 else touched

def accessBeneficiary (rules : Rules) (beneficiary : Address) : Exec Unit := do
  if rules.defines .coldAccountAccess then
    if ← askJournal (·.warmAccount beneficiary) then useGas (rules.amount .coldAccountAccess)

def payForBeneficiary (rules : Rules) (address beneficiary : Address) : Exec Unit := do
  let journal ← journal
  if rules.defines .selfdestructNewAccount &&
      makesBeneficiary rules journal (journal.balance address) beneficiary
  then useGas (rules.amount .selfdestructNewAccount)

def selfdestruct (setting : Setting) : Exec Control := do
  requireNonStatic
  let beneficiary ← popAddress
  let address := (← context).address
  accessBeneficiary setting.rules beneficiary
  payForBeneficiary setting.rules address beneficiary
  modifyJournal (closeAccount setting.rules address beneficiary)
  return .stop

end Exec

end StateTransition.Evm
