import StateTransition.Account
import StateTransition.Address

/-!
World states: the accounts by address, and the difference of two states. `World.diff` lists exactly
the addresses on which two states disagree, each with what both hold.
-/

namespace StateTransition

structure World where
  accounts : SortedMap Address Account := ∅
  deriving DecidableEq, Repr, Inhabited

structure AccountChange where
  before : Option Account
  after : Option Account
  deriving DecidableEq, Repr

abbrev StateDiff := SortedMap Address AccountChange

namespace World

def empty : World := {}

def get? (world : World) (address : Address) : Option Account := world.accounts.get? address

def contains (world : World) (address : Address) : Bool := (world.get? address).isSome

def account (world : World) (address : Address) : Account := (world.get? address).getD {}

def insert (world : World) (address : Address) (account : Account) : World :=
  ⟨world.accounts.insert address account⟩

def erase (world : World) (address : Address) : World := ⟨world.accounts.erase address⟩

/-- Changes an account, which is created if it is missing. -/
def update (world : World) (address : Address) (change : Account → Account) : World :=
  world.insert address (change (world.account address))

def balance (world : World) (address : Address) : Word := (world.account address).balance

def nonce (world : World) (address : Address) : UInt64 := (world.account address).nonce

def slot (world : World) (address : Address) (key : Word) : Word :=
  (world.account address).slot key

def size (world : World) : Nat := world.accounts.size

def isEmpty (world : World) : Bool := world.accounts.isEmpty

def ofList (entries : List (Address × Account)) : World := ⟨SortedMap.ofList entries⟩

def changed (before after : World) : List (Address × AccountChange) :=
  before.accounts.toList.filterMap fun (address, account) =>
    let now := after.get? address
    if now = some account then none else some (address, ⟨some account, now⟩)

def created (before after : World) : List (Address × AccountChange) :=
  after.accounts.toList.filterMap fun (address, account) =>
    if before.contains address then none else some (address, ⟨none, some account⟩)

def diff (before after : World) : StateDiff :=
  SortedMap.ofList (changed before after ++ created before after)

end World

end StateTransition
