import StateTransition.Fixture.Record
import StateTransition.Scenario
import StateTransition.Scenario.CompiledCode

/-!
Scenarios from fixture files. All texts are given their meaning when a file is read; what depends on
the fork is left to the moment a scenario is set up.
-/

namespace StateTransition.Fixture

open Scenario

inductive FixtureError where
  | malformed
  | quantity (cause : QuantityError)
  | range (scenario : String) (cause : ForkError)
  | address (text : String) (cause : AddressError)
  | unknownCode (name : String)
  | secretKey (cause : SignatureError)
  | unknownType (number : Nat)
  deriving DecidableEq, Repr

def FixtureError.message : FixtureError → String
  | malformed => "JSON error: not a fixture file"
  | quantity cause => "quantity error: " ++ cause.message
  | range scenario cause => "fixture error: " ++ scenario ++ ": " ++ cause.message
  | address text cause => "fixture error: address " ++ text ++ ": " ++ cause.message
  | unknownCode name => "fixture error: unknown compiled code: " ++ name
  | secretKey cause => "fixture error: secret_key: " ++ cause.message
  | unknownType number => "fixture error: unknown transaction type " ++ toString number

abbrev Reading (α : Type) := Except FixtureError α

def readAddress (text : String) : Reading Address :=
  (Address.ofHex? text).mapError (.address text)

def readWordText (text : String) : Reading Word := (Quantity.parse text).mapError .quantity

def readWord (raw : RawQuantity) : Reading Word := raw.toWord.mapError .quantity

def readNumber (raw : RawQuantity) : Reading UInt64 := raw.toUInt64.mapError .quantity

def readHash (text : String) : Reading Hash256 := return Hash256.ofWord (← readWordText text)

def readBytes (text : String) : Reading Bytes := (Quantity.parseBytes text).mapError .quantity

def readOptional {α β : Type} (read : α → Reading β) (value : Option α) : Reading (Option β) :=
  match value with
  | some raw => some <$> read raw
  | none => pure none

def readDefaulted {α β : Type} (absent : β) (read : α → Reading β) (value : Option α) :
    Reading β :=
  value.elim (pure absent) read

def readEnvironment (raw : RawEnvironment) : Reading Environment := do
  let absent : Environment := {}
  return {
    coinbase := ← readDefaulted absent.coinbase readAddress raw.coinbase
    difficulty := ← readDefaulted absent.difficulty readWord raw.difficulty
    prevrandao := ← readDefaulted absent.prevrandao readHash raw.prevrandao
    gasLimit := ← readDefaulted absent.gasLimit readNumber raw.gasLimit
    number := ← readDefaulted absent.number readNumber raw.number
    timestamp := ← readDefaulted absent.timestamp readNumber raw.timestamp
    baseFee := ← readDefaulted absent.baseFee readWord raw.baseFee
    blobBaseFee := ← readDefaulted absent.blobBaseFee readWord raw.blobBaseFee }

/-- Slots by key; where two texts spell one key, the later one counts. -/
def readStorage (raw : RawStorage) : Reading (SortedMap Word Word) := do
  let slots ← raw.mapM fun (key, value) => return (← readWordText key, ← readWord value)
  return SortedMap.ofList slots

structure FixtureAccount where
  address : Address
  account : Account
  compiled : Option CompiledCode

def readCode (raw : RawCode) : Reading (Bytes × Option CompiledCode) :=
  match raw with
  | .hex digits => return (← readBytes digits, none)
  | .compiled name =>
    match CompiledCode.ofName? name with
    | some code => return (code.bytes, some code)
    | none => throw (.unknownCode name)

def readAccount (address : String) (raw : RawAccount) : Reading FixtureAccount := do
  let balance ← readDefaulted 0#256 readWord raw.balance
  let nonce ← readDefaulted 0 readNumber raw.nonce
  let (code, compiled) ← readDefaulted ([], none) readCode raw.code
  let storage ← readStorage raw.storage
  let account := ({ balance, nonce, code } : Account).setSlots storage.toList
  return ⟨← readAddress address, account, compiled⟩

def readRecipient (raw : Option String) : Reading (Option Address) :=
  match raw.map Text.trim with
  | none => pure none
  | some text => if text.isEmpty then pure none else some <$> readAddress text

def readAccessListItem (raw : RawAccessListItem) : Reading AccessListItem := do
  return ⟨← readAddress raw.address, ← raw.storageKeys.mapM readHash⟩

def readKey (text : String) : Reading PrivateKey := do
  (PrivateKey.ofBytes? (← readBytes text)).mapError .secretKey

def readType (number : Nat) : Reading TransactionType :=
  match TransactionType.ofNumber? number with
  | some type => pure type
  | none => throw (.unknownType number)

def readTransaction (raw : RawTransaction) : Reading TransactionDraft := do
  let absent : TransactionDraft := {}
  let key ← readKey raw.secretKey
  let sender ← readDefaulted key.address readAddress raw.sender
  let recipient ← readRecipient raw.recipient
  let type ← readType raw.type
  let accessList ← raw.accessList.mapM readAccessListItem
  let gasLimit ← readNumber raw.gasLimit
  let data ← readBytes raw.data
  let value ← readDefaulted absent.value readWord raw.value
  let chainId ← readOptional readNumber raw.chainId
  let gasPrice ← readDefaulted absent.gasPrice readWord raw.gasPrice
  let maxFee ← readDefaulted absent.maxFee readWord raw.maxFee
  let maxPriorityFee ← readDefaulted absent.maxPriorityFee readWord raw.maxPriorityFee
  let nonce ← readOptional readNumber raw.nonce
  return {
    type, sender := some sender, recipient, value, data, gasLimit, gasPrice, maxFee,
    maxPriorityFee, accessList, chainId, isProtected := raw.isProtected, nonce, key := some key }

def readExpectation (raw : RawExpectation) : Reading Expectation := do
  if raw.absent then return .absent
  let balance ← readOptional readWord raw.balance
  let nonce ← readOptional readNumber raw.nonce
  let code ← readOptional readBytes raw.code
  let storage ← readOptional readStorage raw.storage
  return .present { balance, nonce, code, storage }

/-- Expectations by address; where two texts spell one address, the later one counts. -/
def readExpectations (raw : List (String × RawExpectation)) : Reading ExpectedWorld := do
  let expectations ← raw.mapM fun (address, expectation) =>
    return (← readAddress address, ← readExpectation expectation)
  return SortedMap.ofList expectations

def readRange (name : String) (raw : RawScenario) : Reading ForkRange :=
  match raw.validUntil with
  | some stop => (ForkRange.between raw.validFrom stop).mapError (.range name)
  | none => pure (.starting raw.validFrom)

structure FixtureBody where
  environment : Environment
  before : List FixtureAccount
  draft : TransactionDraft
  expected : ExpectedWorld

namespace FixtureBody

def placeAccount (rules : Rules) (entry : FixtureAccount) : Allocation Unit := do
  match entry.compiled with
  | some compiled =>
    let code ← Allocation.ofExcept (compiled.atFork rules)
    Allocation.place entry.address { entry.account with code }
  | none => Allocation.place entry.address entry.account

/-- The chain is that of the run, whatever the fixture says of the block. -/
def plan (body : FixtureBody) (rules : Rules) (chainId : UInt64) : Except SetupError Plan :=
  Plan.ofAllocation { body.environment with chainId } do
    body.before.forM (placeAccount rules)
    let transaction ← Allocation.complete body.draft rules chainId
    return (transaction, body.expected)

end FixtureBody

def readScenario (name : String) (raw : RawScenario) : Reading StateTransition.Scenario := do
  let range ← readRange name raw
  let environment ← readEnvironment raw.environment
  let before ← raw.before.mapM fun (address, account) => readAccount address account
  let draft ← readTransaction raw.transaction
  let expected ← readExpectations raw.after
  let body : FixtureBody := ⟨environment, before, draft, expected⟩
  return ⟨name, range, body.plan⟩

def parse (text : String) : Reading (List StateTransition.Scenario) :=
  match readRecords? text with
  | none => throw .malformed
  | some records => records.mapM fun (name, raw) => readScenario name raw

end StateTransition.Fixture
