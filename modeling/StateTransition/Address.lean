import StateTransition.Word
import StateTransition.SortedMap
import StateTransition.Text.Hex

namespace StateTransition

structure Address where
  bits : BitVec 160
  deriving DecidableEq, Repr, Inhabited

inductive AddressError where
  | invalidHex (cause : HexError)
  | invalidLength (found : Nat)
  deriving DecidableEq, Repr

namespace AddressError

def message : AddressError → String
  | invalidHex cause => "invalid hex string: " ++ cause.message
  | invalidLength found =>
    "invalid address length: expected 20 bytes, got " ++ toString found

end AddressError

namespace Address

def ofNat (value : Nat) : Address := ⟨BitVec.ofNat 160 value⟩

def zero : Address := ⟨0#160⟩

def isZero (address : Address) : Bool := address == zero

def toBytes (address : Address) : Bytes := Bytes.toBigEndian 20 address.bits.toNat

def ofBytes? (bytes : Bytes) : Except AddressError Address :=
  if bytes.length = 20 then .ok (ofNat bytes.ofBigEndian) else .error (.invalidLength bytes.length)

def ofHex? (text : String) : Except AddressError Address :=
  match Hex.decodeText text with
  | .ok bytes => ofBytes? bytes
  | .error cause => .error (.invalidHex cause)

def hexText (address : Address) : String := Hex.encodeMarked address.toBytes

def debugText (address : Address) : String := "Address(" ++ address.hexText ++ ")"

def ofWord (word : Word) : Address := ⟨word.setWidth 160⟩

def toWord (address : Address) : Word := address.bits.setWidth 256

instance : Key Address where
  rank address := address.bits.toNat
  rank_injective {a b} same := by
    cases a; cases b
    exact congrArg mk (BitVec.eq_of_toNat_eq same)

instance : LT Address := ⟨fun a b => a.toBytes < b.toBytes⟩

instance (a b : Address) : Decidable (a < b) := inferInstanceAs (Decidable (a.toBytes < b.toBytes))

end Address

end StateTransition
