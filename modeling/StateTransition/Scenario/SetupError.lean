import StateTransition.Fork.Table
import StateTransition.Transaction.Signed

namespace StateTransition.Scenario

inductive SetupError where
  | invalidChainId (expected : UInt64) (found : Option UInt64)
  | signatureMismatch (sender signer : Address)
  | insufficientFunds (address : Address) (required balance : Word)
  | nonceMismatch (address : Address) (expected found : UInt64)
  | addressCollision (address : Address)
  | featureNotActive (cause : ForkError)
  | missingSender
  | missingKey (address : Address)
  | gasTableMismatch (opcode : UInt8) (compiled : UInt64) (actual : Option UInt64)
  | crypto (cause : SignatureError)
  | transaction (cause : SenderError)
  deriving DecidableEq, Repr

namespace SetupError

def optionalText (value : Option UInt64) : String :=
  match value with
  | some number => "Some(" ++ toString number.toNat ++ ")"
  | none => "None"

def message : SetupError → String
  | invalidChainId expected found =>
    "invalid chain id: expected " ++ toString expected.toNat ++ ", got " ++ optionalText found
  | signatureMismatch sender signer =>
    "signature mismatch: sender " ++ sender.hexText ++ ", signer " ++ signer.hexText
  | insufficientFunds address required balance =>
    "insufficient funds for " ++ address.hexText ++ ": required " ++ required.decimalText ++
      ", balance " ++ balance.decimalText
  | nonceMismatch address expected found =>
    "nonce mismatch for " ++ address.hexText ++ ": expected " ++ toString expected.toNat ++
      ", got " ++ toString found.toNat
  | addressCollision address => "address collision at " ++ address.hexText
  | featureNotActive cause => cause.message
  | missingSender => "transaction has no sender"
  | missingKey address => "no signing key for " ++ address.hexText
  | gasTableMismatch opcode compiled actual =>
    "gas table mismatch for opcode 0x" ++ Hex.encode [opcode] ++ ": table " ++
      toString compiled.toNat ++ ", fork " ++ optionalText actual
  | crypto cause => "crypto error: " ++ cause.message
  | transaction cause => "transaction error: " ++ cause.message

end SetupError

end StateTransition.Scenario
