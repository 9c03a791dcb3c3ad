import StateTransition.Proofs.Execution.Gas
import StateTransition.Transaction.Signed

/-!
Signing and the recovery of the sender. The parity of a signature is written into `v` in modular
arithmetic and read back against a base that is cut off; for every chain whose numbers fit into 64
bits both agree with the numbers of the format.
-/

namespace StateTransition

namespace Signature

/-- What a key signs is recovered: signing a hash gives a signature of parity 0 or 1, and its signer
is the address of the key. -/
def Recovers (hash : Hash256) (key : PrivateKey) : Prop :=
  ∃ signature, sign hash key = .ok signature ∧ signature.recoveryId ≤ 1 ∧
    signature.recover hash = .ok key.address

theorem isScalar_zero : isScalar 0#256 = false := rfl

theorem recover_of_zero {signature : Signature} (zero : signature.r = 0#256 ∨ signature.s = 0#256)
    (hash : Hash256) : signature.recover hash = .error .invalidSignature := by
  have refused : ¬ (isScalar signature.r ∧ isScalar signature.s) := by
    rintro ⟨r, s⟩
    rcases zero with zero | zero
    · rw [zero, isScalar_zero] at r
      cases r
    · rw [zero, isScalar_zero] at s
      cases s
  rw [recover, recoverKey, if_pos refused]

theorem nonzero_of_recover {signature : Signature} {hash : Hash256} {signer : Address}
    (recovered : signature.recover hash = .ok signer) :
    signature.r ≠ 0#256 ∧ signature.s ≠ 0#256 := by
  constructor
  · intro zero
    rw [recover_of_zero (.inl zero)] at recovered
    cases recovered
  · intro zero
    rw [recover_of_zero (.inr zero)] at recovered
    cases recovered

end Signature

namespace Transaction

/-- The chain of a legacy transaction, if it commits to one, leaves room for its two numbers in 64
bits. -/
def ChainFits (tx : Transaction) : Prop :=
  tx.isLegacy = true → ∀ chainId ∈ tx.chainId, 2 * chainId.toNat + 36 < UInt64.size

/-- The number that stands for a parity, without a bound. -/
def vFor (tx : Transaction) (parity : Nat) : Nat :=
  match tx.kind with
  | .legacy _ (some chainId) => 2 * chainId.toNat + 35 + parity
  | .legacy _ none => 27 + parity
  | _ => parity

variable {tx : Transaction}

theorem ChainFits.lt (fits : tx.ChainFits) {price : Word} {chainId : UInt64}
    (kind : tx.kind = .legacy price (some chainId)) : 2 * chainId.toNat + 36 < UInt64.size := by
  have legacy : tx.isLegacy = true := by simp [isLegacy, typeNumber, kind]
  exact fits legacy chainId (by simp [Transaction.chainId, kind])

theorem vFor_eq (tx : Transaction) (parity : Nat) : tx.vFor parity = tx.vFor 0 + parity := by
  simp only [vFor]
  split <;> omega

theorem baseV_eq (fits : tx.ChainFits) : tx.baseV = tx.vFor 0 := by
  cases kind : tx.kind with
  | legacy price chain =>
    cases chain with
    | none => simp only [baseV, vFor, kind]
    | some chainId =>
      have room := fits.lt kind
      simp only [baseV, vFor, kind]
      omega
  | accessList | dynamicFee => simp only [baseV, vFor, kind]

theorem toNat_writtenV (fits : tx.ChainFits) {parity : UInt8} (small : parity ≤ 1) :
    (tx.writtenV parity).toNat = tx.vFor parity.toNat := by
  have bit : parity.toNat ≤ 1 := UInt8.le_iff_toNat_le.mp small
  cases kind : tx.kind with
  | legacy price chain =>
    cases chain with
    | none =>
      simp only [writtenV, vFor, kind, UInt64.toNat_add, UInt64.toNat_ofNat, UInt8.toNat_toUInt64]
      omega
    | some chainId =>
      have room : 2 * chainId.toNat + 36 < 2 ^ 64 := fits.lt kind
      simp only [writtenV, vFor, kind, UInt64.toNat_add, UInt64.toNat_mul, UInt64.toNat_ofNat,
        UInt8.toNat_toUInt64]
      omega
  | accessList | dynamicFee => simp only [writtenV, vFor, kind, UInt8.toNat_toUInt64]

end Transaction

namespace SignedTransaction

variable {signed : SignedTransaction}

theorem yParity_eq_ok_iff (fits : signed.tx.ChainFits) {parity : UInt8} :
    signed.yParity = .ok parity ↔ parity ≤ 1 ∧ signed.v.toNat = signed.tx.vFor parity.toNat := by
  have number := signed.tx.vFor_eq parity.toNat
  simp only [yParity, Transaction.baseV_eq fits]
  split
  · rename_i even
    constructor
    · intro read
      cases read
      exact ⟨by decide, even⟩
    · rintro ⟨small, same⟩
      have zero : parity.toNat = (0 : UInt8).toNat := by rw [UInt8.toNat_zero]; omega
      rw [UInt8.toNat_inj.mp zero]
  · rename_i uneven
    split
    · rename_i odd
      constructor
      · intro read
        cases read
        exact ⟨by decide, odd.trans (signed.tx.vFor_eq 1).symm⟩
      · rintro ⟨small, same⟩
        have one : parity.toNat = (1 : UInt8).toNat := by rw [UInt8.toNat_one]; omega
        rw [UInt8.toNat_inj.mp one]
    · rename_i other
      constructor
      · intro read
        cases read
      · rintro ⟨small, same⟩
        have bit : parity.toNat ≤ 1 := UInt8.le_iff_toNat_le.mp small
        omega

theorem yParity_eq_error_iff (signed : SignedTransaction) :
    signed.yParity = .error (.invalidV signed.v) ↔ ∀ parity, signed.yParity ≠ .ok parity := by
  constructor
  · intro refused parity read
    rw [refused] at read
    cases read
  · intro unread
    simp only [yParity] at unread ⊢
    split
    · rename_i even
      exact absurd (if_pos even) (unread 0)
    · rename_i uneven
      split
      · rename_i odd
        exact absurd ((if_neg uneven).trans (if_pos odd)) (unread 1)
      · rfl

theorem sender_of_yParity {parity : UInt8} {signer : Address} (read : signed.yParity = .ok parity)
    (recovered : Signature.recover ⟨signed.r.toWord, signed.s.toWord, parity⟩ signed.tx.signingHash =
      .ok signer) : signed.sender = .ok signer := by
  have nonzero := Signature.nonzero_of_recover recovered
  have apart (part : Hash256) (word : part.toWord ≠ 0#256) : part.isZero = false := by
    rw [Hash256.isZero, beq_eq_false_iff_ne]
    rintro rfl
    exact word rfl
  have valid : signed.isValid = true := by
    simp only [isValid, apart signed.r nonzero.1, apart signed.s nonzero.2]
    rfl
  simp only [sender, valid, read, recovered]
  rfl

end SignedTransaction

namespace Transaction

variable {tx : Transaction}

theorem yParity_signedBy (fits : tx.ChainFits) {signature : Signature}
    (small : signature.recoveryId ≤ 1) :
    (tx.signedBy signature).yParity = .ok signature.recoveryId :=
  (SignedTransaction.yParity_eq_ok_iff fits).mpr ⟨small, toNat_writtenV fits small⟩

theorem sign_of_recovers (fits : tx.ChainFits) {key : PrivateKey}
    (recovers : Signature.Recovers tx.signingHash key) :
    ∃ signed, tx.sign key = .ok signed ∧ signed.tx = tx ∧ signed.sender = .ok key.address := by
  obtain ⟨signature, signs, small, recovered⟩ := recovers
  have written : tx.sign key = .ok (tx.signedBy signature) := by
    rw [sign, signs]
    rfl
  have read := yParity_signedBy fits small
  exact ⟨tx.signedBy signature, written, rfl, SignedTransaction.sender_of_yParity read recovered⟩

theorem eq_writtenV_iff (fits : tx.ChainFits) {v : UInt64} {parity : UInt8} (small : parity ≤ 1) :
    v = tx.writtenV parity ↔ v.toNat = tx.vFor parity.toNat := by
  rw [← toNat_writtenV fits small, UInt64.toNat_inj]

/-- Whoever signs a transaction is its sender, of whatever kind it is, and the parity is read from
exactly the two numbers that signing writes: those of the format, which never leave 64 bits. -/
theorem signer_is_sender (fits : tx.ChainFits) :
    (∀ key, Signature.Recovers tx.signingHash key →
      ∃ signed, tx.sign key = .ok signed ∧ signed.tx = tx ∧ signed.sender = .ok key.address) ∧
    (∀ parity ≤ 1, (tx.writtenV parity).toNat = tx.vFor parity.toNat) ∧
    ∀ signed : SignedTransaction, signed.tx = tx →
      (∀ parity, signed.yParity = .ok parity ↔ parity ≤ 1 ∧ signed.v = tx.writtenV parity) ∧
      (signed.yParity = .error (.invalidV signed.v) ↔
        ∀ parity ≤ 1, signed.v ≠ tx.writtenV parity) := by
  refine ⟨fun key => sign_of_recovers fits, fun parity => toNat_writtenV fits, ?_⟩
  rintro signed rfl
  have read (parity : UInt8) :
      signed.yParity = .ok parity ↔ parity ≤ 1 ∧ signed.v = signed.tx.writtenV parity := by
    rw [SignedTransaction.yParity_eq_ok_iff fits]
    exact and_congr_right fun small => (eq_writtenV_iff fits small).symm
  constructor
  · exact read
  · rw [SignedTransaction.yParity_eq_error_iff]
    apply forall_congr'
    intro parity
    rw [ne_eq, read parity, not_and]

def lastChainCall : Transaction :=
  { Evm.payment.tx with kind := .legacy 10#256 (some 9223372036854775789) }

theorem signer_is_sender_lastChain :
    lastChainCall.ChainFits ∧ Signature.Recovers lastChainCall.signingHash ⟨1, by decide, by decide⟩ ∧
      ∃ signed, lastChainCall.sign ⟨1, by decide, by decide⟩ = .ok signed ∧
        signed.v = 18446744073709551613 ∧
        signed.sender = .ok ⟨0x7e5f4552091a69125d5dfcb7b8c2659029395bdf#160⟩ := by
  have fits : lastChainCall.ChainFits := by
    intro _ chain known
    obtain rfl : 9223372036854775789 = chain := Option.some.inj known
    decide
  have address : PrivateKey.address ⟨1, by decide, by decide⟩ =
      ⟨0x7e5f4552091a69125d5dfcb7b8c2659029395bdf#160⟩ := by decide +kernel
  have signs : Signature.sign lastChainCall.signingHash ⟨1, by decide, by decide⟩ =
      .ok ⟨0xeff922021b88c915c9ddd8d2b7780355bcf048971e06853f30bf399f69370915#256,
        0x00f9758e598dea3673bd0185eb38c59f85d8df0e94952c9ff65efa2fabb25384#256, 0⟩ := by
    apply Evm.eq_ok_of_toOption
    decide +kernel
  have recovers : Signature.Recovers lastChainCall.signingHash ⟨1, by decide, by decide⟩ := by
    refine ⟨_, signs, by decide, Evm.eq_ok_of_toOption ?_⟩
    rw [address]
    decide +kernel
  obtain ⟨signed, written, same, signer⟩ := (signer_is_sender fits).1 _ recovers
  have number : signed.v = 18446744073709551613 := by
    rw [sign, signs] at written
    exact Except.ok.inj written ▸ rfl
  exact ⟨fits, recovers, signed, written, number, signer.trans (congrArg _ address)⟩

end Transaction

end StateTransition
