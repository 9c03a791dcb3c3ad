import StateTransition.Bytes
import StateTransition.SortedMap

namespace StateTransition

abbrev Word := BitVec 256

namespace Word

def modulus : Nat := 1 <<< 256

def ofNat (value : Nat) : Word := BitVec.ofNat 256 value

def maximum : Word := BitVec.allOnes 256

def isZero (word : Word) : Bool := word == 0#256

instance : Key Word := ⟨BitVec.toNat, BitVec.eq_of_toNat_eq⟩

def ofBytes (bytes : Bytes) : Word := ofNat bytes.ofBigEndian

def toBytes (word : Word) : Bytes := Bytes.toBigEndian 32 word.toNat

def ofBool (condition : Bool) : Word := if condition then 1#256 else 0#256

def bitLength (word : Word) : Nat := if word.isZero then 0 else word.toNat.log2 + 1

def byteLength (word : Word) : Nat := (word.bitLength + 7) / 8

/-- The value as an index of 64 bits; larger values become the largest index. -/
def saturated (word : Word) : Nat := min word.toNat (UInt64.size - 1)

def lowByte (word : Word) : UInt8 := UInt8.ofNat word.toNat

def hexText (word : Word) : String := "0x" ++ String.ofList (Nat.toDigits 16 word.toNat)

def decimalText (word : Word) : String := toString word.toNat

@[simp] theorem length_toBytes (word : Word) : word.toBytes.length = 32 := by simp [toBytes]

end Word

end StateTransition
