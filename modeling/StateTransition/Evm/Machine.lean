import StateTransition.Evm.Frame
import StateTransition.Evm.Gas

/-!
The state an instruction works on, a frame and the journal, and the small steps instructions are
made of. A halt keeps the state as it was when it arose.
-/

namespace StateTransition.Evm

structure Machine where
  frame : Frame
  journal : Journal

abbrev Exec (α : Type) := EStateM Halt Machine α

namespace Exec

def frame : Exec Frame := fun machine => .ok machine.frame machine

def journal : Exec Journal := fun machine => .ok machine.journal machine

def context : Exec CallContext := fun machine => .ok machine.frame.context machine

def gas : Exec Nat := fun machine => .ok machine.frame.gas machine

def modifyFrame (change : Frame → Frame) : Exec Unit := fun machine =>
  .ok () { machine with frame := change machine.frame }

def modifyJournal (change : Journal → Journal) : Exec Unit := fun machine =>
  .ok () { machine with journal := change machine.journal }

def askJournal (change : Journal → α × Journal) : Exec α := fun machine =>
  let (answer, journal) := change machine.journal
  .ok answer { machine with journal }

/-- Works on the stack of the frame, which stays as the work leaves it, refusals included. -/
def onStack (action : StackAction α) : Exec α := fun machine =>
  match action machine.frame.stack with
  | .ok answer stack => .ok answer { machine with frame := { machine.frame with stack } }
  | .error reason stack => .error reason { machine with frame := { machine.frame with stack } }

def push (word : Word) : Exec Unit := onStack (Stack.push word)

def pushNat (value : Nat) : Exec Unit := push (Word.ofNat value)

def pushBool (condition : Bool) : Exec Unit := onStack (Stack.pushBool condition)

def pop : Exec Word := onStack Stack.pop

def popMany (count : Nat) : Exec (Vector Word count) := onStack (Stack.popMany count)

def popEach (count : Nat) : Exec (Vector Word count) := onStack (Stack.popEach count)

def popThree : Exec (Word × Word × Word) := do
  let operands ← popMany 3
  return (operands[0], operands[1], operands[2])

def popAddress : Exec Address := do return Address.ofWord (← pop)

def dup (depth : Nat) : Exec Unit := onStack (Stack.dup depth)

def swap (depth : Nat) : Exec Unit := onStack (Stack.swap depth)

def useGas (amount : Nat) : Exec Unit := fun machine =>
  if machine.frame.gas < amount then .error .outOfGas machine
  else .ok () { machine with frame := { machine.frame with gas := machine.frame.gas - amount } }

def require (condition : Bool) (reason : Halt) : Exec Unit := fun machine =>
  if condition then .ok () machine else .error reason machine

def requireNonStatic : Exec Unit := do
  require (!(← context).isStatic) .staticCallViolation

def accessAccount (rules : Rules) (address : Address) : Exec Unit := do
  if rules.defines .coldAccountAccess then
    let cold ← askJournal (·.warmAccount address)
    useGas (Gas.access rules .coldAccountAccess cold)

/-- No gas pays for memory beyond this offset or for more bytes than this. -/
def memoryLimit : Nat := UInt32.size - 1

/-- Pays for memory up to the end of a range and grows it. A range of no bytes is free. -/
def memoryRange (rules : Rules) (offset size : Word) : Exec (Nat × Nat) := do
  if size.isZero then return (0, 0)
  require (offset.toNat ≤ memoryLimit && size.toNat ≤ memoryLimit) .outOfGas
  let needed := wordCount (offset.toNat + size.toNat)
  let current := (← frame).memory.words
  useGas (Gas.memoryGrowth rules current needed)
  modifyFrame fun frame => { frame with memory := frame.memory.resizeWords needed }
  return (offset.toNat, size.toNat)

def loadWord (offset : Nat) : Exec Word := fun machine =>
  match machine.frame.memory.load? offset with
  | some word => .ok word machine
  | none => .error .memoryFault machine

def readBytes (offset size : Nat) : Exec Bytes := fun machine =>
  match machine.frame.memory.slice? offset size with
  | some bytes => .ok bytes machine
  | none => .error .memoryFault machine

def writeBytes (offset : Nat) (data : Bytes) : Exec Unit := fun machine =>
  if machine.frame.memory.covers offset data.length then
    .ok () { machine with
      frame := { machine.frame with memory := machine.frame.memory.write offset data } }
  else .error .memoryFault machine

end Exec

end StateTransition.Evm
