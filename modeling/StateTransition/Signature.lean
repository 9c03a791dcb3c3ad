import StateTransition.Address
import StateTransition.Curve.Secp256k1
import StateTransition.Digest.Keccak
import StateTransition.Digest.Sha256

/-!
Private keys, deterministic signatures over 32-byte hashes, and the recovery of the signer from a
signature. Signatures have a low `s`, and recovery accepts no other.
-/

namespace StateTransition

inductive SignatureError where
  | signingFailed
  | invalidSignature
  | invalidRecoveryId (found : UInt64)
  | recoveryFailed
  | invalidPrivateKey
  deriving DecidableEq, Repr

namespace SignatureError

def message : SignatureError → String
  | signingFailed => "signing failed: signature error"
  | invalidSignature => "invalid signature: signature error"
  | invalidRecoveryId found => "invalid recovery id: " ++ toString found.toNat
  | recoveryFailed => "public key recovery failed: signature error"
  | invalidPrivateKey => "invalid private key"

end SignatureError

/-- A scalar between zero and the order of the curve, both excluded. -/
structure PrivateKey where
  scalar : Nat
  positive : 0 < scalar
  below_order : scalar < Secp256k1.order
  deriving DecidableEq

instance : Repr PrivateKey := ⟨fun key _ => repr key.scalar⟩

/-- A signature with the number of the curve point it came from: the parity of its ordinate, plus
two if its abscissa was not below the order. -/
structure Signature where
  r : Word
  s : Word
  recoveryId : UInt8
  deriving DecidableEq, Repr

def addressOfPublicKey (x y : Nat) : Address :=
  Address.ofWord (keccak256 (Bytes.toBigEndian 32 x ++ Bytes.toBigEndian 32 y)).toWord

namespace PrivateKey

def ofScalar? (scalar : Nat) : Except SignatureError PrivateKey :=
  if inRange : 0 < scalar ∧ scalar < Secp256k1.order then .ok ⟨scalar, inRange.1, inRange.2⟩
  else .error .invalidPrivateKey

/-- Reads 24 to 32 bytes, most significant first. -/
def ofBytes? (bytes : Bytes) : Except SignatureError PrivateKey :=
  if 24 ≤ bytes.length ∧ bytes.length ≤ 32 then ofScalar? bytes.ofBigEndian
  else .error .invalidPrivateKey

def ofHex? (text : String) : Except SignatureError PrivateKey :=
  match Hex.decodeText text with
  | .ok bytes => ofBytes? bytes
  | .error _ => .error .invalidPrivateKey

def toBytes (key : PrivateKey) : Bytes := Bytes.toBigEndian 32 key.scalar

def address (key : PrivateKey) : Address :=
  match (Secp256k1.Point.generator.times key.scalar).toAffine? with
  | some (x, y) => addressOfPublicKey x y
  | none => Address.zero

end PrivateKey

namespace Signature

structure NonceState where
  key : Bytes
  block : Bytes

namespace NonceState

def mix (state : NonceState) (material : Bytes) : NonceState :=
  let key := hmacSha256 state.key (state.block ++ material)
  ⟨key, hmacSha256 key state.block⟩

def seed (key : PrivateKey) (hash : Hash256) : NonceState :=
  let material := key.toBytes ++ hash.toBytes
  let blank : NonceState := ⟨Bytes.zeros 32, List.replicate 32 1⟩
  (blank.mix (0 :: material)).mix (1 :: material)

/-- Draws blocks until one is a scalar in range, at most `tries` times. -/
def draw : Nat → NonceState → Option Nat
  | 0, _ => none
  | tries + 1, state =>
    let block := hmacSha256 state.key state.block
    let candidate := block.ofBigEndian
    if 0 < candidate ∧ candidate < Secp256k1.order then some candidate
    else draw tries ((⟨state.key, block⟩ : NonceState).mix [0])

end NonceState

def highestLow : Nat := Secp256k1.order / 2

def isLow (signature : Signature) : Bool := signature.s.toNat ≤ highestLow

/-- The nonce follows from the key and the hash, so equal inputs give equal signatures. -/
def sign (hash : Hash256) (key : PrivateKey) : Except SignatureError Signature :=
  match NonceState.draw 64 (NonceState.seed key hash) with
  | none => .error .signingFailed
  | some nonce =>
    match (Secp256k1.Point.generator.times nonce).toAffine? with
    | none => .error .signingFailed
    | some (x, y) =>
      let r := x % Secp256k1.order
      let inverse := Secp256k1.inverseMod Secp256k1.order nonce
      let s := inverse * (hash.bits.toNat + r * key.scalar) % Secp256k1.order
      if r = 0 ∨ s = 0 then .error .signingFailed
      else
        let parity := y % 2
        let reduced := if Secp256k1.order ≤ x then 2 else 0
        if s ≤ highestLow then .ok ⟨Word.ofNat r, Word.ofNat s, UInt8.ofNat (parity + reduced)⟩
        else
          .ok ⟨Word.ofNat r, Word.ofNat (Secp256k1.order - s), UInt8.ofNat (1 - parity + reduced)⟩

def ofLegacyV (r s : Word) (v : UInt64) : Except SignatureError Signature :=
  if v = 27 then .ok ⟨r, s, 0⟩
  else if v = 28 then .ok ⟨r, s, 1⟩
  else .error (.invalidRecoveryId v)

def isScalar (word : Word) : Bool := 0 < word.toNat && word.toNat < Secp256k1.order

def recoverKey (signature : Signature) (hash : Hash256) : Except SignatureError (Nat × Nat) :=
  if ¬ (isScalar signature.r ∧ isScalar signature.s) then .error .invalidSignature
  else if 3 < signature.recoveryId then .error (.invalidRecoveryId signature.recoveryId.toUInt64)
  else
    let r := signature.r.toNat
    let s := signature.s.toNat
    let id := signature.recoveryId.toNat
    let x := if 2 ≤ id then r + Secp256k1.order else r
    match Secp256k1.Point.ofAbscissa? x (id % 2 = 1) with
    | none => .error .recoveryFailed
    | some point =>
      let inverse := Secp256k1.inverseMod Secp256k1.order r
      let forGenerator :=
        (Secp256k1.order - inverse * hash.bits.toNat % Secp256k1.order) % Secp256k1.order
      let forPoint := inverse * s % Secp256k1.order
      let sum := (Secp256k1.Point.generator.times forGenerator).plus (point.times forPoint)
      match sum.toAffine? with
      | none => .error .recoveryFailed
      | some key => if signature.isLow then .ok key else .error .recoveryFailed

def recover (signature : Signature) (hash : Hash256) : Except SignatureError Address :=
  match signature.recoverKey hash with
  | .ok (x, y) => .ok (addressOfPublicKey x y)
  | .error cause => .error cause

end Signature

end StateTransition
