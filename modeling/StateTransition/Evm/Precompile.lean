import StateTransition.Digest.Ripemd160
import StateTransition.Evm.Halt
import StateTransition.Signature
import StateTransition.Transaction.IntrinsicGas

namespace StateTransition.Evm

inductive Precompile where
  | ecRecover
  | sha256
  | ripemd160
  | identity
  deriving DecidableEq, Repr

namespace Precompile

def all : List Precompile := [ecRecover, sha256, ripemd160, identity]

def number : Precompile → Nat
  | ecRecover => 1
  | sha256 => 2
  | ripemd160 => 3
  | identity => 4

def address (contract : Precompile) : Address := Address.ofNat contract.number

def at? (address : Address) : Option Precompile :=
  all.find? fun contract => contract.number = address.bits.toNat

def cost (contract : Precompile) (length : Nat) : Nat :=
  match contract with
  | ecRecover => 3000
  | sha256 => 60 + 12 * wordCount length
  | ripemd160 => 600 + 120 * wordCount length
  | identity => 15 + 3 * wordCount length

/-- A signature as a hash, `v` as a word, `r` and `s`; a bad one gives no output, and does not
fail. -/
def recoverSigner (input : Bytes) : Bytes :=
  let hash := Hash256.ofBytes (input.window 0 32)
  let v := Word.ofBytes (input.window 32 32)
  let r := Word.ofBytes (input.window 64 32)
  let s := Word.ofBytes (input.window 96 32)
  if 256 ≤ v.toNat then []
  else
    match Signature.ofLegacyV r s (UInt64.ofNat v.toNat) with
    | .error _ => []
    | .ok signature =>
      match signature.recover hash with
      | .ok signer => signer.toWord.toBytes
      | .error _ => []

def output (contract : Precompile) (input : Bytes) : Bytes :=
  match contract with
  | ecRecover => recoverSigner input
  | sha256 => StateTransition.sha256 input
  | ripemd160 => (StateTransition.ripemd160 input).padLeft 32
  | identity => input

def run (contract : Precompile) (input : Bytes) (gas : Nat) : Except Halt (Nat × Bytes) :=
  let price := contract.cost input.length
  if gas < price then .error .outOfGas else .ok (price, contract.output input)

def name : Precompile → String
  | ecRecover => "EcRecover"
  | sha256 => "Sha256"
  | ripemd160 => "Ripemd160"
  | identity => "Identity"

end Precompile

end StateTransition.Evm
