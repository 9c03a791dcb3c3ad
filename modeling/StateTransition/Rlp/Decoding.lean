import StateTransition.Address
import StateTransition.Hash256
import StateTransition.Rlp.Encoding

namespace StateTransition.Rlp

inductive DecodeError where
  | tooShort
  | inconsistentLength
  | invalidIndirection
  | invalidLength
  | tooBig
  | expectedData
  deriving DecidableEq, Repr

/-- A length of at most eight bytes that does not start with zero. -/
def decodeLength (digits : Bytes) : Except DecodeError Nat :=
  if 8 < digits.length then .error .tooBig
  else if digits.head? = some 0 then .error .invalidIndirection
  else .ok digits.ofBigEndian

def decodeData (input : Bytes) : Except DecodeError Bytes :=
  match input with
  | [] => .error .tooShort
  | first :: rest =>
    let kind := first.toNat
    if kind < 128 then .ok [first]
    else if kind ≤ 183 then
      let size := kind - 128
      if rest.length < size then .error .inconsistentLength
      else
        let content := rest.take size
        if size = 1 ∧ content.all (· < 128) then .error .invalidIndirection else .ok content
    else if kind ≤ 191 then
      let width := kind - 183
      if rest.length < width then .error .inconsistentLength
      else do
        let size ← decodeLength (rest.take width)
        if UInt64.size ≤ 1 + width + size then .error .invalidLength
        else if rest.length < width + size then .error .inconsistentLength
        else .ok ((rest.drop width).take size)
    else .error .expectedData

def decodeAddress (input : Bytes) : Except DecodeError Address := do
  match Address.ofBytes? (← decodeData input) with
  | .ok address => pure address
  | .error _ => throw .invalidLength

def decodeHash (input : Bytes) : Except DecodeError Hash256 := do
  match Hash256.ofBytes? (← decodeData input) with
  | .ok hash => pure hash
  | .error _ => throw .invalidLength

def encodeAddress (address : Address) : Bytes := encodeData address.toBytes

def encodeHash (hash : Hash256) : Bytes := encodeData hash.toBytes

end StateTransition.Rlp
