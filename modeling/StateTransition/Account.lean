import StateTransition.Digest.Keccak
import StateTransition.Slots

namespace StateTransition

structure Account where
  balance : Word := 0#256
  nonce : UInt64 := 0
  code : Bytes := []
  storage : Slots Word := ∅
  deriving DecidableEq, Repr, Inhabited

namespace Account

def emptyCodeHash : Hash256 :=
  ⟨0xc5d2460186f7233c927e7db2dcc703c0e500b653ca82273b7bfad8045d85a470#256⟩

/-- No code, zero nonce and zero balance; storage does not count. -/
def isEmpty (account : Account) : Bool :=
  account.nonce == 0 && account.balance.isZero && account.code.isEmpty

def hasCode (account : Account) : Bool := !account.code.isEmpty

def codeHash (account : Account) : Hash256 :=
  if account.hasCode then keccak256 account.code else emptyCodeHash

def slot (account : Account) (key : Word) : Word := account.storage.get key

def setSlot (account : Account) (key value : Word) : Account :=
  { account with storage := account.storage.set key value }

def setSlots (account : Account) (slots : List (Word × Word)) : Account :=
  slots.foldl (fun account entry => account.setSlot entry.1 entry.2) account

def clearStorage (account : Account) : Account := { account with storage := ∅ }

end Account

end StateTransition
