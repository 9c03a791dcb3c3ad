import StateTransition.Environment
import StateTransition.Evm.Journal
import StateTransition.Transaction.IntrinsicGas
import StateTransition.Transaction.Signed

/-!
What a transaction has to meet before anything of it is executed. The checks come in a fixed order,
and the first that fails is the one reported.
-/

namespace StateTransition.Evm

inductive Rejection where
  | txTypeNotActive (typeNumber : UInt8) (fork : Fork)
  | replayProtectionNotActive (fork : Fork)
  | chainIdMismatch (expected found : UInt64)
  | invalidSender (cause : SenderError)
  | nonceMismatch (expected found : UInt64)
  | intrinsicGasTooLow (intrinsic limit : Nat)
  | blockGasLimitExceeded (limit block : UInt64)
  | feeCapTooLow (maxFee baseFee : Word)
  | tipAboveFeeCap
  | insufficientFunds (error : InsufficientFunds)
  | initCodeTooLarge (size limit : Nat)
  deriving DecidableEq, Repr

namespace Rejection

def message : Rejection → String
  | txTypeNotActive typeNumber fork =>
    "transaction type " ++ toString typeNumber.toNat ++ " is not active at " ++ fork.name
  | replayProtectionNotActive fork =>
    "replay-protected transaction is not valid at " ++ fork.name
  | chainIdMismatch expected found =>
    "chain id mismatch: expected " ++ toString expected.toNat ++ ", got " ++ toString found.toNat
  | invalidSender cause => "invalid sender: " ++ cause.message
  | nonceMismatch expected found =>
    "nonce mismatch: expected " ++ toString expected.toNat ++ ", got " ++ toString found.toNat
  | intrinsicGasTooLow intrinsic limit =>
    "intrinsic gas " ++ toString intrinsic ++ " exceeds gas limit " ++ toString limit
  | blockGasLimitExceeded limit block =>
    "gas limit " ++ toString limit.toNat ++ " exceeds block gas limit " ++ toString block.toNat
  | feeCapTooLow maxFee baseFee =>
    "max fee per gas " ++ maxFee.decimalText ++ " below base fee " ++ baseFee.decimalText
  | tipAboveFeeCap => "max priority fee per gas above max fee per gas"
  | insufficientFunds error => error.message
  | initCodeTooLarge size limit =>
    "init code of " ++ toString size ++ " bytes exceeds limit " ++ toString limit

end Rejection

structure Accepted where
  sender : Address
  intrinsic : Nat
  gasPrice : Word
  deriving DecidableEq, Repr

def check (condition : Bool) (rejection : Rejection) : Except Rejection Unit :=
  if condition then .ok () else .error rejection

def typeSwitch? (tx : Transaction) : Option Param :=
  match tx.kind with
  | .legacy .. => none
  | .accessList .. => some .txTypeAccessList
  | .dynamicFee .. => some .txTypeDynamicFee

def checkType (rules : Rules) (tx : Transaction) : Except Rejection Unit :=
  check ((typeSwitch? tx).all rules.isActive) (.txTypeNotActive tx.typeNumber rules.fork)

/-- A transaction that commits to a chain needs a fork that knows chains, and this chain. -/
def checkChain (rules : Rules) (environment : Environment) (tx : Transaction) :
    Except Rejection Unit :=
  match tx.chainId with
  | none => .ok ()
  | some chainId => do
    check (!tx.isLegacy || rules.isActive .replayProtection) (.replayProtectionNotActive rules.fork)
    check (chainId == environment.chainId) (.chainIdMismatch environment.chainId chainId)

def checkGas (rules : Rules) (environment : Environment) (tx : Transaction) :
    Except Rejection Nat := do
  let intrinsic := tx.intrinsicGas rules
  let limit := tx.gasLimit.toNat
  check (intrinsic ≤ limit) (.intrinsicGasTooLow intrinsic limit)
  check (limit ≤ environment.gasLimit.toNat)
    (.blockGasLimitExceeded tx.gasLimit environment.gasLimit)
  return intrinsic

def tipWithinCap (tx : Transaction) : Bool :=
  match tx.kind with
  | .dynamicFee _ maxPriorityFee maxFee _ => maxPriorityFee ≤ maxFee
  | _ => true

def checkFees (rules : Rules) (environment : Environment) (tx : Transaction) :
    Except Rejection Word := do
  let charged := rules.isActive .baseFee
  check (!charged || environment.baseFee ≤ tx.maxFee)
    (.feeCapTooLow tx.maxFee environment.baseFee)
  check (tipWithinCap tx) .tipAboveFeeCap
  let baseFee := if charged then environment.baseFee else 0#256
  match tx.effectiveGasPrice baseFee with
  | some price => return price
  | none => throw (.feeCapTooLow tx.maxFee baseFee)

def checkInitCode (rules : Rules) (tx : Transaction) : Except Rejection Unit :=
  match rules.value .maxInitCodeSize with
  | some limit =>
    check (!tx.isCreate || tx.data.length ≤ limit.toNat)
      (.initCodeTooLarge tx.data.length limit.toNat)
  | none => .ok ()

/-- The value and the highest fee, cut off at the largest word. -/
def worstCost (tx : Transaction) : Word :=
  let cost := tx.maxFee.toNat * tx.gasLimit.toNat + tx.value.toNat
  if cost < Word.modulus then Word.ofNat cost else Word.maximum

def validate (rules : Rules) (world : World) (environment : Environment)
    (signed : SignedTransaction) : Except Rejection Accepted := do
  let tx := signed.tx
  checkType rules tx
  checkChain rules environment tx
  let sender ← signed.sender.mapError .invalidSender
  let expected := world.nonce sender
  check (tx.nonce == expected) (.nonceMismatch expected tx.nonce)
  let intrinsic ← checkGas rules environment tx
  let gasPrice ← checkFees rules environment tx
  checkInitCode rules tx
  let balance := world.balance sender
  check (worstCost tx ≤ balance) (.insufficientFunds ⟨worstCost tx, balance⟩)
  return { sender, intrinsic, gasPrice }

end StateTransition.Evm
