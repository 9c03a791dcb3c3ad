import StateTransition.World

namespace StateTransition.Scenario

structure ExpectedAccount where
  balance : Option Word := none
  nonce : Option UInt64 := none
  code : Option Bytes := none
  storage : Option (SortedMap Word Word) := none
  deriving DecidableEq, Repr, Inhabited

namespace ExpectedAccount

/-- Expects a slot, and with it that all slots that are not expected are zero. -/
def withSlot (account : ExpectedAccount) (key value : Word) : ExpectedAccount :=
  { account with storage := some ((account.storage.getD ∅).insert key value) }

def withEmptyStorage (account : ExpectedAccount) : ExpectedAccount :=
  { account with storage := some ∅ }

end ExpectedAccount

inductive Expectation where
  | absent
  | present (account : ExpectedAccount)
  deriving DecidableEq, Repr

abbrev ExpectedWorld := SortedMap Address Expectation

inductive Field where
  | existence
  | balance
  | nonce
  | code
  | storage (key : Word)
  deriving DecidableEq, Repr

def Field.text : Field → String
  | existence => "existence"
  | balance => "balance"
  | nonce => "nonce"
  | code => "code"
  | storage key => "storage[" ++ key.hexText ++ "]"

structure Mismatch where
  address : Address
  field : Field
  expected : String
  actual : String
  deriving DecidableEq, Repr

def Mismatch.text (mismatch : Mismatch) : String :=
  mismatch.address.hexText ++ " " ++ mismatch.field.text ++ ": expected " ++ mismatch.expected ++
    ", got " ++ mismatch.actual

namespace Expectation

def compare {α : Type} [DecidableEq α] (address : Address) (field : Field) (render : α → String)
    (expected actual : α) : List Mismatch :=
  if expected = actual then [] else [⟨address, field, render expected, render actual⟩]

def compareOptional {α : Type} [DecidableEq α] (address : Address) (field : Field)
    (render : α → String) (expected : Option α) (actual : α) : List Mismatch :=
  expected.elim [] fun expected => compare address field render expected actual

/-- Compares storage on every key that either side holds, in the order of the keys. -/
def compareStorage (address : Address) (expected : SortedMap Word Word) (actual : Slots Word) :
    List Mismatch :=
  let keys := (SortedSet.ofKeys (expected.keys ++ actual.entries.keys)).keys
  keys.flatMap fun key =>
    compare address (.storage key) Word.hexText ((expected.get? key).getD 0#256) (actual.get key)

def compareAccount (address : Address) (expected : ExpectedAccount) (account : Account) :
    List Mismatch :=
  compareOptional address .balance Word.hexText expected.balance account.balance ++
  compareOptional address .nonce (fun nonce => toString nonce.toNat) expected.nonce account.nonce ++
  compareOptional address .code Hex.encodeMarked expected.code account.code ++
  expected.storage.elim [] fun storage => compareStorage address storage account.storage

def mismatches (address : Address) (expectation : Expectation) (account : Option Account) :
    List Mismatch :=
  match expectation, account with
  | .absent, none => []
  | .absent, some _ => [⟨address, .existence, "absent", "present"⟩]
  | .present _, none => [⟨address, .existence, "present", "absent"⟩]
  | .present expected, some account => compareAccount address expected account

end Expectation

/-- Every expectation that a world does not meet, by address and then by field. -/
def verify (expected : ExpectedWorld) (world : World) : List Mismatch :=
  expected.toList.flatMap fun (address, expectation) =>
    expectation.mismatches address (world.get? address)

end StateTransition.Scenario
