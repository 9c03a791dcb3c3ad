import StateTransition.Scenario.SetupError
import StateTransition.World

/-!
The accounts a scenario starts from. Contracts get addresses and funded accounts get keys from two
counters, which advance whether or not an account can be placed; an address that is taken is never
given again.
-/

namespace StateTransition.Scenario

structure Allocator where
  world : World := {}
  nextContract : UInt64 := 0x1000
  nextKey : Word := 0x45a915e4d060149eb4365960e6a7a45f33439309306116b197e3240065ff2dd8#256
  keys : SortedMap Address PrivateKey := ∅

structure Deployment where
  code : Bytes := []
  balance : Word := 0#256
  nonce : UInt64 := 0
  storage : List (Word × Word) := []

def Deployment.account (deployment : Deployment) : Account :=
  { code := deployment.code, balance := deployment.balance, nonce := deployment.nonce : Account }
    |>.setSlots deployment.storage

structure FundedAccount where
  address : Address
  key : PrivateKey

def FundedAccount.debugText (account : FundedAccount) : String :=
  "Eoa \x7b address: \"" ++ account.address.hexText ++ "\" \x7d"

abbrev Allocation (α : Type) := EStateM SetupError Allocator α

namespace Allocation

def place (address : Address) (account : Account) : Allocation Unit := fun allocator =>
  if allocator.world.contains address then .error (.addressCollision address) allocator
  else .ok () { allocator with world := allocator.world.insert address account }

def contractStep : UInt64 := 0x100

def takeContractAddress : Allocation Address := fun allocator =>
  .ok (Address.ofNat allocator.nextContract.toNat)
    { allocator with nextContract := allocator.nextContract + contractStep }

def takeKey : Allocation Word := fun allocator =>
  .ok allocator.nextKey { allocator with nextKey := allocator.nextKey + 1#256 }

def deploy (deployment : Deployment) : Allocation Address := do
  let address ← takeContractAddress
  place address deployment.account
  return address

def remember (address : Address) (key : PrivateKey) : Allocation Unit := fun allocator =>
  .ok () { allocator with keys := allocator.keys.insert address key }

def fundKey (key : PrivateKey) (amount : Word) : Allocation FundedAccount := do
  let address := key.address
  place address { balance := amount }
  remember address key
  return ⟨address, key⟩

def fund (amount : Word) : Allocation FundedAccount := do
  match PrivateKey.ofBytes? (← takeKey).toBytes with
  | .ok key => fundKey key amount
  | .error cause => throw (.crypto cause)

end Allocation

end StateTransition.Scenario
