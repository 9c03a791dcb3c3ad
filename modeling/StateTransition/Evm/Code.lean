import StateTransition.Bytes

/-!
Code as it is executed: its bytes and the places a jump may lead to. Operand bytes after a push are
no instructions, so `0x5b` among them is no destination.
-/

namespace StateTransition.Evm

structure Code where
  bytes : Array UInt8
  destinations : Array Bool
  deriving DecidableEq, Repr

namespace Code

def operandSize (byte : UInt8) : Nat :=
  if 0x60 ≤ byte.toNat ∧ byte.toNat ≤ 0x7f then byte.toNat - 0x5f else 0

/-- One byte of the scan: how many operand bytes are still to come, and the marks so far. -/
def scan (state : Nat × Array Bool) (byte : UInt8) : Nat × Array Bool :=
  match state.1 with
  | 0 => (operandSize byte, state.2.push (byte == 0x5b))
  | pending + 1 => (pending, state.2.push false)

def ofBytes (bytes : Bytes) : Code := ⟨bytes.toArray, (bytes.foldl scan (0, #[])).2⟩

instance : Inhabited Code := ⟨ofBytes []⟩

def size (code : Code) : Nat := code.bytes.size

def isDestination (code : Code) (position : Nat) : Bool := code.destinations.getD position false

/-- The operand of a push as the bytes of a word, at their right end; those past the end of the code
are zero. -/
def operand (code : Code) (position size : Nat) : Bytes :=
  let start := min position code.size
  let stop := min (position + size) code.size
  Bytes.zeros (32 - size) ++ (code.bytes.extract start stop).toList ++
    Bytes.zeros (size - (stop - start))

end Code

end StateTransition.Evm
