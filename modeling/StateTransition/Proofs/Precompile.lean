import StateTransition.Evm.Precompile
import StateTransition.Proofs.Transaction.Sender
import StateTransition.Proofs.Word.Arithmetic
import StateTransition.Proofs.Word.Spelling

/-!
The contract that recovers a signer agrees with the recovery of senders: given what a legacy
transaction without a chain signs and its signature, it answers with the sender, and with nothing
where there is none.
-/

namespace StateTransition

namespace SignedTransaction

/-- The signed hash, `v` as a word, and the two parts of the signature: 128 bytes. -/
def recoveryInput (signed : SignedTransaction) : Bytes :=
  signed.tx.signingHash.toBytes ++ (Word.ofNat signed.v.toNat).toBytes ++ signed.r.toBytes ++
    signed.s.toBytes

theorem length_recoveryInput (signed : SignedTransaction) : signed.recoveryInput.length = 128 := by
  simp [recoveryInput]

def senderOutput (signed : SignedTransaction) : Bytes :=
  match signed.sender with
  | .ok sender => sender.toBytes.padLeft 32
  | .error _ => []

theorem zero_of_isValid {signed : SignedTransaction} (invalid : signed.isValid = false) :
    signed.r.toWord = 0#256 ∨ signed.s.toWord = 0#256 := by
  have zero {part : Hash256} (isZero : part.isZero = true) : part.toWord = 0#256 := by
    rw [beq_iff_eq.mp isZero]
    rfl
  simp only [isValid, Bool.and_eq_false_iff, Bool.not_eq_false'] at invalid
  exact invalid.imp zero zero

theorem yParity_or_ofLegacyV {signed : SignedTransaction} {price : Word}
    (kind : signed.tx.kind = .legacy price none) (r s : Word) :
    (∃ parity, signed.yParity = .ok parity ∧ signed.v.toNat < 256 ∧
      Signature.ofLegacyV r s signed.v = .ok ⟨r, s, parity⟩) ∨
    ∃ cause refusal, signed.yParity = .error cause ∧
      Signature.ofLegacyV r s signed.v = .error refusal := by
  have base : signed.tx.baseV = 27 := by simp only [Transaction.baseV, kind]
  simp only [yParity, base, Signature.ofLegacyV, ← UInt64.toNat_inj]
  by_cases even : signed.v.toNat = 27
  · refine .inl ⟨0, if_pos even, by omega, if_pos even⟩
  · by_cases odd : signed.v.toNat = 28
    · refine .inl ⟨1, ?_, by omega, ?_⟩
      · rw [if_neg even, if_pos odd]
      · exact (if_neg even).trans (if_pos odd)
    · refine .inr ⟨.invalidV signed.v, .invalidRecoveryId signed.v, ?_, ?_⟩
      · exact (if_neg even).trans (if_neg odd)
      · exact (if_neg even).trans (if_neg odd)

end SignedTransaction

namespace Evm.Precompile

def recoverParts (hash : Hash256) (v r s : Word) : Bytes :=
  if 256 ≤ v.toNat then []
  else
    match Signature.ofLegacyV r s (UInt64.ofNat v.toNat) with
    | .error _ => []
    | .ok signature =>
      match signature.recover hash with
      | .ok signer => signer.toWord.toBytes
      | .error _ => []

theorem recoverSigner_eq (input : Bytes) :
    recoverSigner input = recoverParts (Hash256.ofBytes (input.window 0 32))
      (Word.ofBytes (input.window 32 32)) (Word.ofBytes (input.window 64 32))
      (Word.ofBytes (input.window 96 32)) := rfl

theorem recoverSigner_append (hash : Hash256) (v r s : Word) :
    recoverSigner (hash.toBytes ++ v.toBytes ++ r.toBytes ++ s.toBytes) =
      recoverParts hash v r s := by
  have hashed : hash.toBytes.length = 32 := hash.length_toBytes
  have word (part : Word) : part.toBytes.length = 32 := part.length_toBytes
  have alone : s.toBytes.window 0 32 = s.toBytes := by
    simpa using Bytes.window_append_left (word s) []
  rw [recoverSigner_eq]
  simp only [List.append_assoc]
  rw [Bytes.window_append_left hashed, Bytes.window_append_right hashed _ 0,
    Bytes.window_append_left (word v), Bytes.window_append_right hashed _ 32,
    Bytes.window_append_right (word v) _ 0, Bytes.window_append_left (word r),
    Bytes.window_append_right hashed _ 64, Bytes.window_append_right (word v) _ 32,
    Bytes.window_append_right (word r) _ 0, alone, Hash256.ofBytes_toBytes, Word.ofBytes_toBytes,
    Word.ofBytes_toBytes, Word.ofBytes_toBytes]

theorem recoverSigner_window (input : Bytes) :
    recoverSigner (input.window 0 128) = recoverSigner input := by
  rw [recoverSigner_eq, recoverSigner_eq, Bytes.window_window, Bytes.window_window,
    Bytes.window_window, Bytes.window_window] <;> decide

theorem toNat_vWord (v : UInt64) : (Word.ofNat v.toNat).toNat = v.toNat :=
  Word.toNat_ofNat_of_lt (Nat.lt_trans v.toNat_lt (by decide))

theorem recoverParts_of_error {v : UInt64} {r s : Word} {cause : SignatureError}
    (refused : Signature.ofLegacyV r s v = .error cause) (hash : Hash256) :
    recoverParts hash (Word.ofNat v.toNat) r s = [] := by
  rw [recoverParts, toNat_vWord, UInt64.ofNat_toNat, refused]
  split <;> rfl

theorem recoverParts_of_ok {v : UInt64} {r s : Word} {signature : Signature}
    (small : v.toNat < 256) (stands : Signature.ofLegacyV r s v = .ok signature)
    (hash : Hash256) :
    recoverParts hash (Word.ofNat v.toNat) r s =
      match signature.recover hash with
      | .ok signer => signer.toWord.toBytes
      | .error _ => [] := by
  rw [recoverParts, toNat_vWord, UInt64.ofNat_toNat, stands, if_neg (Nat.not_le.mpr small)]

theorem recoverSigner_recoveryInput {signed : SignedTransaction} {price : Word}
    (kind : signed.tx.kind = .legacy price none) :
    recoverSigner signed.recoveryInput = signed.senderOutput := by
  have parts : recoverSigner signed.recoveryInput = recoverParts signed.tx.signingHash
      (Word.ofNat signed.v.toNat) signed.r.toWord signed.s.toWord := recoverSigner_append _ _ _ _
  rw [parts, SignedTransaction.senderOutput]
  rcases SignedTransaction.yParity_or_ofLegacyV kind signed.r.toWord signed.s.toWord with
    ⟨parity, read, small, stands⟩ | ⟨cause, refusal, unread, refused⟩
  · rw [recoverParts_of_ok small stands]
    cases valid : signed.isValid with
    | false =>
      rw [Signature.recover_of_zero (SignedTransaction.zero_of_isValid valid),
        SignedTransaction.sender, valid]
      rfl
    | true =>
      cases answer : Signature.recover ⟨signed.r.toWord, signed.s.toWord, parity⟩
          signed.tx.signingHash with
      | ok signer =>
        rw [SignedTransaction.sender_of_yParity read answer]
        exact signer.toBytes_toWord
      | error cause => simp [SignedTransaction.sender, valid, read, answer]
  · rw [recoverParts_of_error refused, SignedTransaction.sender, unread]
    cases signed.isValid <;> rfl

/-- The contract answers with the sender of a legacy transaction without a chain, and with nothing
where no sender is recovered. Of any input it sees the first 128 bytes, zeros where there are
fewer. -/
theorem ecRecover_answers_sender :
    (∀ (signed : SignedTransaction) (price : Word), signed.tx.kind = .legacy price none →
      ∀ gas, 3000 ≤ gas →
        ecRecover.run signed.recoveryInput gas = .ok (3000, signed.senderOutput)) ∧
      ∀ input gas, ecRecover.run input gas = ecRecover.run (input.window 0 128) gas := by
  constructor
  · intro signed price kind gas enough
    have answer : ecRecover.output signed.recoveryInput = signed.senderOutput :=
      recoverSigner_recoveryInput kind
    rw [run, answer]
    exact if_neg (Nat.not_lt.mpr enough)
  · intro input gas
    have answer : ecRecover.output (input.window 0 128) = ecRecover.output input :=
      recoverSigner_window input
    rw [run, run, answer]
    rfl

theorem ecRecover_answers_sender_payment :
    payment.tx.kind = .legacy 10#256 none ∧ 3000 ≤ 5000 ∧
      ecRecover.run payment.recoveryInput 5000 =
        .ok (3000, Bytes.zeros 12 ++
          Address.toBytes ⟨0x7e5f4552091a69125d5dfcb7b8c2659029395bdf#160⟩) ∧
      ecRecover.run (payment.recoveryInput ++ [1, 2, 3]) 5000 =
        ecRecover.run payment.recoveryInput 5000 := by
  have kind : payment.tx.kind = .legacy 10#256 none := rfl
  obtain ⟨answers, sees⟩ := ecRecover_answers_sender
  have answer := answers payment 10#256 kind 5000 (by decide)
  have output : payment.senderOutput = Bytes.zeros 12 ++
      Address.toBytes ⟨0x7e5f4552091a69125d5dfcb7b8c2659029395bdf#160⟩ := by
    rw [SignedTransaction.senderOutput, sender_payment]
    rfl
  refine ⟨kind, by decide, answer.trans (by rw [output]), ?_⟩
  have cut := Bytes.window_append_left payment.length_recoveryInput [1, 2, 3]
  rw [sees, cut]

end Evm.Precompile

end StateTransition
