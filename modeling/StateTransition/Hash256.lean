import StateTransition.Word
import StateTransition.Text.Hex

namespace StateTransition

structure Hash256 where
  bits : BitVec 256
  deriving DecidableEq, Repr, Inhabited

inductive HashError where
  | invalidHex (cause : HexError)
  | invalidLength (found : Nat)
  deriving DecidableEq, Repr

namespace HashError

def message : HashError → String
  | invalidHex cause => "invalid hex string: " ++ cause.message
  | invalidLength found => "invalid hash length: expected 32 bytes, got " ++ toString found

end HashError

namespace Hash256

def zero : Hash256 := ⟨0#256⟩

def isZero (hash : Hash256) : Bool := hash == zero

def ofWord (word : Word) : Hash256 := ⟨word⟩

def toWord (hash : Hash256) : Word := hash.bits

def toBytes (hash : Hash256) : Bytes := Bytes.toBigEndian 32 hash.bits.toNat

def ofBytes (bytes : Bytes) : Hash256 := ⟨Word.ofBytes bytes⟩

def ofBytes? (bytes : Bytes) : Except HashError Hash256 :=
  if bytes.length = 32 then .ok (ofBytes bytes) else .error (.invalidLength bytes.length)

def ofHex? (text : String) : Except HashError Hash256 :=
  match Hex.decodeText text with
  | .ok bytes => ofBytes? bytes
  | .error cause => .error (.invalidHex cause)

def hexText (hash : Hash256) : String := Hex.encodeMarked hash.toBytes

def debugText (hash : Hash256) : String := "H256(" ++ hash.hexText ++ ")"

instance : LT Hash256 := ⟨fun a b => a.toBytes < b.toBytes⟩

instance (a b : Hash256) : Decidable (a < b) := inferInstanceAs (Decidable (a.toBytes < b.toBytes))

end Hash256

end StateTransition
