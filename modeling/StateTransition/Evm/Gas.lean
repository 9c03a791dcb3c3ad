import StateTransition.Word.Arithmetic
import StateTransition.Fork.Table
import StateTransition.Transaction.IntrinsicGas

namespace StateTransition.Evm.Gas

/-- What it costs to hold a number of memory words: linear, with a small quadratic part. -/
def memoryCost (rules : Rules) (words : Nat) : Nat :=
  capGas (rules.amount .memoryWord * words + words * words / 512)

def memoryGrowth (rules : Rules) (current needed : Nat) : Nat :=
  if needed ≤ current then 0 else memoryCost rules needed - memoryCost rules current

def copy (rules : Rules) (length : Nat) : Nat := capGas (rules.amount .copyWord * wordCount length)

def hashing (rules : Rules) (length : Nat) : Nat :=
  capGas (rules.amount .keccakWord * wordCount length)

def logData (rules : Rules) (length : Nat) : Nat := capGas (rules.amount .logData * length)

def exponent (rules : Rules) (value : Word) : Nat := rules.amount .expByte * value.byteLength

def initCode (rules : Rules) (length : Nat) : Nat :=
  capGas (rules.amount .initCodeWord * wordCount length)

def codeDeposit (rules : Rules) (length : Nat) : Nat :=
  capGas (rules.amount .codeDepositByte * length)

/-- The price of an access where accesses are priced: `coldPrice` the first time, then the price of
a warm read. -/
def access (rules : Rules) (coldPrice : Param) (cold : Bool) : Nat :=
  if rules.defines coldPrice then
    if cold then rules.amount coldPrice else rules.amount .warmStorageRead
  else 0

/-- A 64-bit amount read as a signed number. -/
def signed (amount : Nat) : Int :=
  if 2 * amount < UInt64.size then amount else (amount : Int) - UInt64.size

structure SlotWrite where
  initial : Word
  current : Word
  new : Word
  deriving DecidableEq, Repr

structure WritePrice where
  gas : Nat
  refund : Int
  deriving DecidableEq, Repr

/-- The price that looks at the values before and after only. -/
def plainWrite (rules : Rules) (slot : SlotWrite) : WritePrice where
  gas :=
    if slot.current.isZero && !slot.new.isZero then rules.amount .sstoreSet
    else rules.amount .sstoreReset
  refund :=
    if !slot.current.isZero && slot.new.isZero then signed (rules.amount .sstoreClearRefund) else 0

/-- What clearing a dirty slot gives, or taking back its clearing takes. -/
def clearingRefund (rules : Rules) (slot : SlotWrite) : Int :=
  if slot.initial.isZero then 0
  else if slot.current.isZero then - signed (rules.amount .sstoreClearRefund)
  else if slot.new.isZero then signed (rules.amount .sstoreClearRefund)
  else 0

/-- What a dirty slot gives back when it returns to its initial value. -/
def restoringRefund (rules : Rules) (slot : SlotWrite) : Int :=
  if slot.initial = slot.new then
    let paid := if slot.initial.isZero then rules.amount .sstoreSet else rules.amount .sstoreReset
    signed paid - signed (rules.amount .sstoreNoop)
  else 0

/-- The price that charges for a change of the initial value once. -/
def netWrite (rules : Rules) (slot : SlotWrite) : WritePrice :=
  if slot.current = slot.new then ⟨rules.amount .sstoreNoop, 0⟩
  else if slot.initial = slot.current then
    if slot.initial.isZero then ⟨rules.amount .sstoreSet, 0⟩
    else
      ⟨rules.amount .sstoreReset,
        if slot.new.isZero then signed (rules.amount .sstoreClearRefund) else 0⟩
  else ⟨rules.amount .sstoreNoop, clearingRefund rules slot + restoringRefund rules slot⟩

def write (rules : Rules) (slot : SlotWrite) (cold : Bool) : WritePrice :=
  let price := if rules.isActive .netSstoreMetering then netWrite rules slot
    else plainWrite rules slot
  { price with gas := price.gas + if cold then rules.amount .coldSload else 0 }

def allButOne64th (available : Nat) : Nat := available - available / 64

/-- The gas a call hands on. Where a 64th is kept back the request is cut to the rest; before, the
whole request has to be there. -/
def forCall (rules : Rules) (requested : Word) (available : Nat) : Option Nat :=
  let wanted := capGas requested.toNat
  if rules.isActive .allButOne64th then some (min wanted (allButOne64th available))
  else if wanted ≤ available then some wanted
  else none

def forCreate (rules : Rules) (available : Nat) : Nat :=
  if rules.isActive .allButOne64th then allButOne64th available else available

end StateTransition.Evm.Gas
