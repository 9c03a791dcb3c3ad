import StateTransition.Scenario.Allocator
import StateTransition.Transaction.Signed

namespace StateTransition.Scenario

inductive TransactionType where
  | legacy
  | accessList
  | dynamicFee
  deriving DecidableEq, Repr

def TransactionType.ofNumber? (number : Nat) : Option TransactionType :=
  match number with
  | 0 => some .legacy
  | 1 => some .accessList
  | 2 => some .dynamicFee
  | _ => none

structure TransactionDraft where
  type : TransactionType := .legacy
  sender : Option Address := none
  recipient : Option Address := none
  value : Word := 0#256
  data : Bytes := []
  gasLimit : UInt64 := 21000
  gasPrice : Word := 10#256
  maxFee : Word := 10#256
  maxPriorityFee : Word := 0#256
  accessList : List AccessListItem := []
  chainId : Option UInt64 := none
  isProtected : Bool := true
  nonce : Option UInt64 := none
  key : Option PrivateKey := none

namespace TransactionDraft

def call (sender recipient : Address) : TransactionDraft :=
  { sender := some sender, recipient := some recipient }

def create (sender : Address) (initCode : Bytes) : TransactionDraft :=
  { sender := some sender, data := initCode }

def neededSwitch? (draft : TransactionDraft) : Option Param :=
  match draft.type with
  | .legacy => if draft.isProtected then some .replayProtection else none
  | .accessList => some .txTypeAccessList
  | .dynamicFee => some .txTypeDynamicFee

def checkFeature (draft : TransactionDraft) (rules : Rules) : Except SetupError Unit :=
  match draft.neededSwitch? with
  | none => .ok ()
  | some switch =>
    match rules.get switch with
    | .ok _ => .ok ()
    | .error cause => .error (.featureNotActive cause)

def commitsToChain (draft : TransactionDraft) : Bool :=
  draft.type ≠ .legacy || draft.isProtected

def checkChain (draft : TransactionDraft) (chain chainId : UInt64) : Except SetupError Unit :=
  if draft.commitsToChain && (chain == 0 || chain != chainId) then
    .error (.invalidChainId chainId (some chain))
  else .ok ()

def signingKey (draft : TransactionDraft) (allocator : Allocator) (sender : Address) :
    Except SetupError PrivateKey :=
  match draft.key.or (allocator.keys.get? sender) with
  | none => .error (.missingKey sender)
  | some key =>
    if key.address = sender then .ok key else .error (.signatureMismatch sender key.address)

def checkedNonce (draft : TransactionDraft) (allocator : Allocator) (sender : Address) :
    Except SetupError UInt64 :=
  let expected := allocator.world.nonce sender
  let nonce := draft.nonce.getD expected
  if nonce = expected then .ok nonce else .error (.nonceMismatch sender expected nonce)

def highestPrice (draft : TransactionDraft) : Word :=
  match draft.type with
  | .dynamicFee => draft.maxFee
  | .legacy | .accessList => draft.gasPrice

def worstCost (draft : TransactionDraft) : Nat :=
  draft.gasLimit.toNat * draft.highestPrice.toNat + draft.value.toNat

/-- Amounts above the largest word are reported as the largest word. -/
def checkFunds (draft : TransactionDraft) (allocator : Allocator) (sender : Address) :
    Except SetupError Unit :=
  let balance := allocator.world.balance sender
  let required :=
    if draft.worstCost < Word.modulus then Word.ofNat draft.worstCost else Word.maximum
  if balance < required then .error (.insufficientFunds sender required balance) else .ok ()

def kind (draft : TransactionDraft) (chain : UInt64) : TransactionKind :=
  match draft.type with
  | .legacy => .legacy draft.gasPrice (if draft.isProtected then some chain else none)
  | .accessList => .accessList chain draft.gasPrice draft.accessList
  | .dynamicFee => .dynamicFee chain draft.maxPriorityFee draft.maxFee draft.accessList

def transaction (draft : TransactionDraft) (chain nonce : UInt64) : Transaction where
  nonce := nonce
  gasLimit := draft.gasLimit
  recipient := draft.recipient
  value := draft.value
  data := draft.data
  kind := draft.kind chain

/-- Signs, and makes sure that the sender can be recovered. -/
def signAs (tx : Transaction) (key : PrivateKey) (sender : Address) :
    Except SetupError SignedTransaction := do
  let signed ← (tx.sign key).mapError .transaction
  let signer ← signed.sender.mapError .transaction
  if signer = sender then return signed else throw (.signatureMismatch sender signer)

def complete (draft : TransactionDraft) (allocator : Allocator) (rules : Rules)
    (chainId : UInt64) : Except SetupError SignedTransaction := do
  match draft.sender with
  | none => throw .missingSender
  | some sender =>
    draft.checkFeature rules
    let chain := draft.chainId.getD chainId
    draft.checkChain chain chainId
    let key ← draft.signingKey allocator sender
    let nonce ← draft.checkedNonce allocator sender
    draft.checkFunds allocator sender
    signAs (draft.transaction chain nonce) key sender

end TransactionDraft

end StateTransition.Scenario
