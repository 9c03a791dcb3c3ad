import StateTransition.World
import StateTransition.Evm.Halt

/-!
The world state while a transaction runs, with a journal of every change. Going back to a
checkpoint undoes the changes made since, newest first, and drops the logs emitted since.
-/

namespace StateTransition.Evm

structure Log where
  address : Address
  topics : List Hash256
  data : Bytes
  deriving DecidableEq, Repr

abbrev SlotKey := Address × Word

instance : Key SlotKey where
  rank slot := slot.1.bits.toNat <<< 256 + slot.2.toNat
  rank_injective {a b} same := by
    have boundA := a.2.isLt
    have boundB := b.2.isLt
    have addresses : a.1.bits.toNat = b.1.bits.toNat := by omega
    have keys : a.2.toNat = b.2.toNat := by omega
    exact Prod.ext (Key.rank_injective addresses) (BitVec.eq_of_toNat_eq keys)

inductive Change where
  | accountWarmed (address : Address)
  | slotWarmed (slot : SlotKey)
  | accountCreated (address : Address)
  | accountReplaced (address : Address) (previous : Account)
  | balance (address : Address) (previous : Word)
  | nonce (address : Address) (previous : UInt64)
  | code (address : Address) (previous : Bytes)
  | storage (address : Address) (key previous : Word)
  | transientStorage (slot : SlotKey) (previous : Word)
  | touched (address : Address)
  | createdInTransaction (address : Address)
  | destructed (address : Address)
  | refund (previous : Int)
  deriving DecidableEq, Repr

structure Checkpoint where
  changes : Nat
  logs : Nat
  deriving DecidableEq, Repr

structure InsufficientFunds where
  required : Word
  balance : Word
  deriving DecidableEq, Repr

def InsufficientFunds.message (error : InsufficientFunds) : String :=
  "insufficient funds: required " ++ error.required.decimalText ++ ", balance " ++
    error.balance.decimalText

/-- The newest changes and logs come last. -/
structure Journal where
  world : World
  initial : World
  warmAccounts : SortedSet Address := ∅
  warmSlots : SortedSet SlotKey := ∅
  transient : Slots SlotKey := ∅
  touched : SortedSet Address := ∅
  created : SortedSet Address := ∅
  destructed : SortedSet Address := ∅
  logs : Array Log := #[]
  refund : Int := 0
  changes : Array Change := #[]
  deriving DecidableEq, Repr

namespace Journal

def start (world : World) : Journal := { world, initial := world }

def checkpoint (journal : Journal) : Checkpoint := ⟨journal.changes.size, journal.logs.size⟩

def adjust (world : World) (address : Address) (change : Account → Account) : World :=
  match world.get? address with
  | some account => world.insert address (change account)
  | none => world

def undo (journal : Journal) : Change → Journal
  | .accountWarmed address =>
    { journal with warmAccounts := journal.warmAccounts.erase address }
  | .slotWarmed slot => { journal with warmSlots := journal.warmSlots.erase slot }
  | .accountCreated address => { journal with world := journal.world.erase address }
  | .accountReplaced address previous =>
    { journal with world := journal.world.insert address previous }
  | .balance address previous =>
    { journal with world := adjust journal.world address ({ · with balance := previous }) }
  | .nonce address previous =>
    { journal with world := adjust journal.world address ({ · with nonce := previous }) }
  | .code address previous =>
    { journal with world := adjust journal.world address ({ · with code := previous }) }
  | .storage address key previous =>
    { journal with world := adjust journal.world address (·.setSlot key previous) }
  | .transientStorage slot previous =>
    { journal with transient := journal.transient.set slot previous }
  | .touched address => { journal with touched := journal.touched.erase address }
  | .createdInTransaction address => { journal with created := journal.created.erase address }
  | .destructed address => { journal with destructed := journal.destructed.erase address }
  | .refund previous => { journal with refund := previous }

def undoMany : Nat → Journal → Journal
  | 0, journal => journal
  | count + 1, journal =>
    match journal.changes.back? with
    | none => journal
    | some change =>
      undoMany count (({ journal with changes := journal.changes.pop }).undo change)

/-- Goes back to a checkpoint. A checkpoint that lies ahead changes nothing. -/
def revert (journal : Journal) (checkpoint : Checkpoint) : Journal :=
  let earlier := undoMany (journal.changes.size - checkpoint.changes) journal
  { earlier with logs := earlier.logs.shrink checkpoint.logs }

def account? (journal : Journal) (address : Address) : Option Account := journal.world.get? address

def contains (journal : Journal) (address : Address) : Bool := journal.world.contains address

def isEmptyAt (journal : Journal) (address : Address) : Bool :=
  (journal.world.account address).isEmpty

def balance (journal : Journal) (address : Address) : Word := journal.world.balance address

def nonce (journal : Journal) (address : Address) : UInt64 := journal.world.nonce address

def code (journal : Journal) (address : Address) : Bytes := (journal.world.account address).code

def slot (journal : Journal) (address : Address) (key : Word) : Word :=
  journal.world.slot address key

def initialSlot (journal : Journal) (address : Address) (key : Word) : Word :=
  journal.initial.slot address key

def transientSlot (journal : Journal) (address : Address) (key : Word) : Word :=
  journal.transient.get (address, key)

def isWarm (journal : Journal) (address : Address) : Bool := journal.warmAccounts.contains address

def isCreated (journal : Journal) (address : Address) : Bool := journal.created.contains address

def isDestructed (journal : Journal) (address : Address) : Bool :=
  journal.destructed.contains address

def record (journal : Journal) (change : Change) : Journal :=
  { journal with changes := journal.changes.push change }

def warmAccount (journal : Journal) (address : Address) : Bool × Journal :=
  if journal.warmAccounts.contains address then (false, journal)
  else
    (true, { journal with warmAccounts := journal.warmAccounts.add address }.record
      (.accountWarmed address))

def warmSlot (journal : Journal) (address : Address) (key : Word) : Bool × Journal :=
  if journal.warmSlots.contains (address, key) then (false, journal)
  else
    (true, { journal with warmSlots := journal.warmSlots.add (address, key) }.record
      (.slotWarmed (address, key)))

def touch (journal : Journal) (address : Address) : Journal :=
  if journal.touched.contains address then journal
  else { journal with touched := journal.touched.add address }.record (.touched address)

def ensure (journal : Journal) (address : Address) : Journal :=
  if journal.contains address then journal
  else { journal with world := journal.world.insert address {} }.record (.accountCreated address)

def setBalance (journal : Journal) (address : Address) (balance : Word) : Journal :=
  let ready := journal.ensure address
  { ready with world := ready.world.update address ({ · with balance := balance }) }.record
    (.balance address (ready.balance address))

/-- A sum that would not fit is the largest word. -/
def addBalance (journal : Journal) (address : Address) (amount : Word) : Journal :=
  let sum := (journal.balance address).toNat + amount.toNat
  journal.setBalance address (if sum < Word.modulus then Word.ofNat sum else Word.maximum)

def cannotPay (journal : Journal) (address : Address) (amount : Word) : Bool :=
  journal.balance address < amount

def debit (journal : Journal) (address : Address) (amount : Word) : Journal :=
  journal.setBalance address (journal.balance address - amount)

def subBalance (journal : Journal) (address : Address) (amount : Word) :
    Except InsufficientFunds Journal :=
  if journal.cannotPay address amount then .error ⟨amount, journal.balance address⟩
  else .ok (journal.debit address amount)

/-- Moves an amount that the sender can pay, and touches both accounts, which may be the same. -/
def move (journal : Journal) (sender recipient : Address) (amount : Word) : Journal :=
  (((journal.debit sender amount).addBalance recipient amount).touch sender).touch recipient

def transfer (journal : Journal) (sender recipient : Address) (amount : Word) :
    Except InsufficientFunds Journal :=
  if journal.cannotPay sender amount then .error ⟨amount, journal.balance sender⟩
  else .ok (journal.move sender recipient amount)

/-- The successor of a nonce; the largest nonce stays. -/
def nextNonce (nonce : UInt64) : UInt64 := if nonce.toNat + 1 < UInt64.size then nonce + 1 else nonce

def bumpNonce (journal : Journal) (address : Address) : Journal :=
  let ready := journal.ensure address
  let previous := ready.nonce address
  { ready with world := ready.world.update address ({ · with nonce := nextNonce previous }) }.record
    (.nonce address previous)

def setCode (journal : Journal) (address : Address) (code : Bytes) : Journal :=
  let ready := journal.ensure address
  { ready with world := ready.world.update address ({ · with code := code }) }.record
    (.code address (ready.code address))

def setSlot (journal : Journal) (address : Address) (key value : Word) : Journal :=
  let ready := journal.ensure address
  { ready with world := ready.world.update address (·.setSlot key value) }.record
    (.storage address key (ready.slot address key))

def setTransientSlot (journal : Journal) (address : Address) (key value : Word) : Journal :=
  { journal with transient := journal.transient.set (address, key) value }.record
    (.transientStorage (address, key) (journal.transientSlot address key))

/-- Makes a fresh contract account. A balance that was there stays; code and storage go. -/
def createAccount (journal : Journal) (address : Address) (nonce : UInt64) : Journal :=
  let replaced :=
    match journal.account? address with
    | some previous =>
      { journal with world := journal.world.insert address { balance := previous.balance, nonce } }
        |>.record (.accountReplaced address previous)
    | none =>
      { journal with world := journal.world.insert address { nonce } }
        |>.record (.accountCreated address)
  if replaced.created.contains address then replaced
  else
    { replaced with created := replaced.created.add address }.record (.createdInTransaction address)

def markDestructed (journal : Journal) (address : Address) : Bool × Journal :=
  if journal.destructed.contains address then (false, journal)
  else
    (true, { journal with destructed := journal.destructed.add address }.record
      (.destructed address))

/-- The refund counter is kept in 64 bits with a sign. -/
def refundFits (journal : Journal) : Bool :=
  Int64.minValue.toInt ≤ journal.refund && journal.refund ≤ Int64.maxValue.toInt

def addRefund (journal : Journal) (amount : Int) : Journal :=
  if amount = 0 then journal
  else { journal with refund := journal.refund + amount }.record (.refund journal.refund)

def emit (journal : Journal) (log : Log) : Journal := { journal with logs := journal.logs.push log }

def eraseIfEmpty (world : World) (address : Address) : World :=
  if (world.get? address).any Account.isEmpty then world.erase address else world

/-- Deletes the accounts that are scheduled for it and, with `cleanup`, touched accounts that are
empty. The logs come in the order they were emitted. -/
def finish (journal : Journal) (cleanup : Bool) : World × List Log :=
  let kept := journal.destructed.keys.foldl World.erase journal.world
  let world := if cleanup then journal.touched.keys.foldl eraseIfEmpty kept else kept
  (world, journal.logs.toList)

end Journal

end StateTransition.Evm
