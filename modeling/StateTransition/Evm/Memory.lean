import StateTransition.Word

/-!
The byte memory of a frame. It grows by whole words of zeros and never shrinks; an access past its
end gives nothing, and an access to no bytes is always possible.
-/

namespace StateTransition.Evm

structure Memory where
  bytes : Array UInt8
  aligned : bytes.size % 32 = 0
  deriving DecidableEq, Repr

namespace Memory

def empty : Memory := ⟨#[], rfl⟩

instance : Inhabited Memory := ⟨empty⟩

def size (memory : Memory) : Nat := memory.bytes.size

def words (memory : Memory) : Nat := memory.bytes.size / 32

def toBytes (memory : Memory) : Bytes := memory.bytes.toList

def resizeWords (memory : Memory) (count : Nat) : Memory :=
  ⟨memory.bytes ++ Array.replicate (32 * count - memory.bytes.size) 0, by
    have := memory.aligned
    simp only [Array.size_append, Array.size_replicate]
    omega⟩

def overwrite (target : Array UInt8) (offset : Nat) : Bytes → Array UInt8
  | [] => target
  | byte :: rest => overwrite (target.setIfInBounds offset byte) (offset + 1) rest

@[simp] theorem size_overwrite (target : Array UInt8) (offset : Nat) (data : Bytes) :
    (overwrite target offset data).size = target.size := by
  induction data generalizing target offset with
  | nil => rfl
  | cons byte rest ih => rw [overwrite, ih, Array.size_setIfInBounds]

def write (memory : Memory) (offset : Nat) (data : Bytes) : Memory :=
  ⟨overwrite memory.bytes offset data, by rw [size_overwrite]; exact memory.aligned⟩

def covers (memory : Memory) (offset size : Nat) : Bool := size == 0 || offset + size ≤ memory.size

def slice? (memory : Memory) (offset size : Nat) : Option Bytes :=
  if memory.covers offset size then some (memory.bytes.extract offset (offset + size)).toList
  else none

def load? (memory : Memory) (offset : Nat) : Option Word :=
  (memory.slice? offset 32).map Word.ofBytes

def storeSlice? (memory : Memory) (offset : Nat) (data : Bytes) : Option Memory :=
  if memory.covers offset data.length then some (memory.write offset data) else none

def store? (memory : Memory) (offset : Nat) (word : Word) : Option Memory :=
  memory.storeSlice? offset word.toBytes

def storeByte? (memory : Memory) (offset : Nat) (byte : UInt8) : Option Memory :=
  memory.storeSlice? offset [byte]

/-- What is stored of `source` from `start` on: the bytes that are there, then zeros. -/
def filled (source : Bytes) (start size : Nat) : Bytes :=
  let available := min (source.length - start) size
  source.slice start (start + available) ++ Bytes.zeros (size - available)

def storePadded? (memory : Memory) (offset : Nat) (source : Bytes) (start size : Nat) :
    Option Memory :=
  memory.storeSlice? offset (filled source start size)

/-- Copies bytes within memory, as they were before the copy. -/
def copy? (memory : Memory) (target source size : Nat) : Option Memory := do
  let data ← memory.slice? source size
  memory.storeSlice? target data

end Memory

end StateTransition.Evm
