import StateTransition.Transaction
import StateTransition.Signature

/-!
Signed transactions. The number `v` carries the parity of the signature, and for legacy
transactions the chain as well: `27 + p` without a chain, `2 * c + 35 + p` with chain `c`, and `p`
for the two later kinds.
-/

namespace StateTransition

inductive SenderError where
  | crypto (cause : SignatureError)
  | invalidV (v : UInt64)
  | emptySignature
  deriving DecidableEq, Repr

namespace SenderError

def message : SenderError → String
  | crypto cause => "crypto error: " ++ cause.message
  | invalidV v => "invalid signature v value: " ++ toString v.toNat
  | emptySignature => "signature has zero r or s"

end SenderError

structure SignedTransaction where
  tx : Transaction
  v : UInt64
  r : Hash256
  s : Hash256
  deriving DecidableEq, Repr

namespace Transaction

/-- The `v` that is written for a parity, modulo `2 ^ 64`. -/
def writtenV (tx : Transaction) (parity : UInt8) : UInt64 :=
  match tx.kind with
  | .legacy _ (some chainId) => chainId * 2 + 35 + parity.toUInt64
  | .legacy _ none => 27 + parity.toUInt64
  | _ => parity.toUInt64

/-- The `v` that is read as parity zero. Numbers above 64 bits are cut off at the largest. -/
def baseV (tx : Transaction) : Nat :=
  match tx.kind with
  | .legacy _ (some chainId) => min (2 * chainId.toNat + 35) (UInt64.size - 1)
  | .legacy _ none => 27
  | _ => 0

def signedBy (tx : Transaction) (signature : Signature) : SignedTransaction where
  tx := tx
  v := tx.writtenV signature.recoveryId
  r := Hash256.ofWord signature.r
  s := Hash256.ofWord signature.s

def sign (tx : Transaction) (key : PrivateKey) : Except SenderError SignedTransaction :=
  ((Signature.sign tx.signingHash key).mapError .crypto).map tx.signedBy

end Transaction

namespace SignedTransaction

def isValid (signed : SignedTransaction) : Bool := !signed.r.isZero && !signed.s.isZero

def encode (signed : SignedTransaction) : Bytes :=
  signed.tx.enveloped <| signed.tx.fields ++
    [Rlp.number signed.v.toNat, Rlp.number signed.r.toWord.toNat, Rlp.number signed.s.toWord.toNat]

def hash (signed : SignedTransaction) : Hash256 := keccak256 signed.encode

def yParity (signed : SignedTransaction) : Except SenderError UInt8 :=
  let base := signed.tx.baseV
  let v := signed.v.toNat
  if v = base then .ok 0 else if v = base + 1 then .ok 1 else .error (.invalidV signed.v)

def sender (signed : SignedTransaction) : Except SenderError Address :=
  if !signed.isValid then .error .emptySignature
  else
    match signed.yParity with
    | .error cause => .error cause
    | .ok parity =>
      match Signature.recover ⟨signed.r.toWord, signed.s.toWord, parity⟩ signed.tx.signingHash with
      | .ok address => .ok address
      | .error cause => .error (.crypto cause)

end SignedTransaction

end StateTransition
