import StateTransition.Proofs.Transaction.Payload
import StateTransition.Transaction.Signed

/-!
What is sent tells the signed transaction. The encoding of a legacy transaction leaves its chain out,
and the chain is read off `v`: 27 and 28 stand for none, and the two numbers from `2 * c + 35` on for
chain `c`.
-/

namespace StateTransition.SignedTransaction

open Rlp (number number_injective)
open Transaction (word_injective gas_injective)

/-- The parity can be read, and a legacy transaction commits to no chain whose two numbers go beyond
64 bits. -/
structure WellFormed (signed : SignedTransaction) : Prop where
  readable : ∃ parity, signed.yParity = .ok parity
  chainFits : signed.tx.isLegacy = true →
    ∀ chainId ∈ signed.tx.chainId, 2 * chainId.toNat + 36 < UInt64.size

variable {signed left right : SignedTransaction}

theorem v_of_yParity {parity : UInt8} (read : signed.yParity = .ok parity) :
    signed.v.toNat = signed.tx.baseV ∨ signed.v.toNat = signed.tx.baseV + 1 := by
  simp only [yParity] at read
  split at read
  · exact Or.inl (by assumption)
  · split at read
    · exact Or.inr (by assumption)
    · cases read

theorem WellFormed.v_of_unchained {price : Word} (form : signed.WellFormed)
    (kind : signed.tx.kind = .legacy price none) :
    signed.v.toNat = 27 ∨ signed.v.toNat = 28 := by
  obtain ⟨parity, read⟩ := form.readable
  have base : signed.tx.baseV = 27 := by simp only [Transaction.baseV, kind]
  simpa [base] using v_of_yParity read

theorem WellFormed.v_of_chained {price : Word} {chainId : UInt64} (form : signed.WellFormed)
    (kind : signed.tx.kind = .legacy price (some chainId)) :
    signed.v.toNat = 2 * chainId.toNat + 35 ∨ signed.v.toNat = 2 * chainId.toNat + 36 := by
  obtain ⟨parity, read⟩ := form.readable
  have legacy : signed.tx.isLegacy = true := by
    simp [Transaction.isLegacy, Transaction.typeNumber, kind]
  have fits : 2 * chainId.toNat + 36 < UInt64.size :=
    form.chainFits legacy chainId (by simp [Transaction.chainId, kind])
  have base : signed.tx.baseV = 2 * chainId.toNat + 35 := by
    simp only [Transaction.baseV, kind]
    omega
  simpa [base] using v_of_yParity read

theorem chain_eq_of_v {leftPrice rightPrice : Word} {leftChain rightChain : Option UInt64}
    (leftForm : left.WellFormed) (rightForm : right.WellFormed)
    (leftKind : left.tx.kind = .legacy leftPrice leftChain)
    (rightKind : right.tx.kind = .legacy rightPrice rightChain) (same : left.v = right.v) :
    leftChain = rightChain := by
  have numbers : left.v.toNat = right.v.toNat := congrArg UInt64.toNat same
  rcases leftChain with _ | leftChain <;> rcases rightChain with _ | rightChain
  · rfl
  · have plain := leftForm.v_of_unchained leftKind
    have chained := rightForm.v_of_chained rightKind
    omega
  · have chained := leftForm.v_of_chained leftKind
    have plain := rightForm.v_of_unchained rightKind
    omega
  · have first := leftForm.v_of_chained leftKind
    have second := rightForm.v_of_chained rightKind
    rw [UInt64.toNat_inj.mp (show leftChain.toNat = rightChain.toNat by omega)]

def signatureItems (signed : SignedTransaction) : List Rlp.Item :=
  [number signed.v.toNat, number signed.r.toWord.toNat, number signed.s.toWord.toNat]

theorem encode_eq (signed : SignedTransaction) :
    signed.encode = signed.tx.enveloped (signed.tx.fields ++ signed.signatureItems) := rfl

theorem signatureItems_injective (same : left.signatureItems = right.signatureItems) :
    left.v = right.v ∧ left.r = right.r ∧ left.s = right.s := by
  simp only [signatureItems, List.cons.injEq, and_true] at same
  obtain ⟨vs, rs, ss⟩ := same
  have hash {one other : Hash256} (words : one.toWord = other.toWord) : one = other := by
    cases one
    cases other
    exact congrArg Hash256.mk words
  exact ⟨gas_injective vs, hash (word_injective rs), hash (word_injective ss)⟩

theorem eq_of_tx (txs : left.tx = right.tx) (items : left.signatureItems = right.signatureItems) :
    left = right := by
  obtain ⟨vs, rs, ss⟩ := signatureItems_injective items
  cases left
  cases right
  cases txs
  cases vs
  cases rs
  cases ss
  rfl

/-- Signed transactions whose parity can be read are told apart by what is sent, so what is sent has
one sender and one hash. As in a payload, lengths are bounded by the format alone. -/
theorem encode_injective (leftForm : left.WellFormed) (rightForm : right.WellFormed)
    (fits : left.encode.length < UInt64.size) (same : left.encode = right.encode) :
    left = right ∧ left.sender = right.sender := by
  suffices equal : left = right from ⟨equal, congrArg sender equal⟩
  rw [encode_eq] at fits
  rw [encode_eq, encode_eq] at same
  obtain ⟨envelopes, items⟩ := Transaction.enveloped_injective fits same
  cases leftKind : left.tx.kind with
  | legacy =>
    cases rightKind : right.tx.kind with
    | legacy =>
      obtain ⟨determined, signatures⟩ := Transaction.legacyFields_injective leftKind rightKind items
      have vs : left.v = right.v := (signatureItems_injective signatures).1
      have chains := chain_eq_of_v leftForm rightForm leftKind rightKind vs
      exact eq_of_tx (determined chains) signatures
    | accessList | dynamicFee =>
      simp [Transaction.envelope, Transaction.isLegacy, Transaction.typeNumber, leftKind,
        rightKind] at envelopes
  | accessList =>
    cases rightKind : right.tx.kind with
    | accessList =>
      obtain ⟨txs, signatures⟩ := Transaction.accessListFields_injective leftKind rightKind items
      exact eq_of_tx txs signatures
    | legacy | dynamicFee =>
      simp [Transaction.envelope, Transaction.isLegacy, Transaction.typeNumber, leftKind,
        rightKind] at envelopes
  | dynamicFee =>
    cases rightKind : right.tx.kind with
    | dynamicFee =>
      obtain ⟨txs, signatures⟩ := Transaction.dynamicFeeFields_injective leftKind rightKind items
      exact eq_of_tx txs signatures
    | legacy | accessList =>
      simp [Transaction.envelope, Transaction.isLegacy, Transaction.typeNumber, leftKind,
        rightKind] at envelopes

/-- A creation on chain 1 whose `r` starts with a zero byte, as it was signed. -/
def signedCreation : SignedTransaction where
  tx :=
    { nonce := 0
      gasLimit := 100000
      recipient := none
      value := 0#256
      data := [0x60, 0x01, 0x60, 0x00, 0x55] ++ List.replicate 60 0x5b
      kind := .legacy 10#256 (some 1) }
  v := 38
  r := ⟨0x00f1a2b3c4d5e6f708192a3b4c5d6e7f8091a2b3c4d5e6f708192a3b4c5d6e7f#256⟩
  s := ⟨0x80#256⟩

def reassembledCreation : SignedTransaction where
  tx :=
    { signedCreation.tx with
      data := Bytes.ofText "\x60\x01\x60" ++ [0x00] ++ Bytes.ofText "U" ++
        List.replicate 30 0x5b ++ List.replicate 30 0x5b
      kind := .legacy 10#256 (some (UInt64.ofNat ((38 - 35) / 2))) }
  v := 38
  r := Hash256.ofBytes (Bytes.minimal signedCreation.r.toWord.toNat)
  s := Hash256.ofBytes [0x80]

theorem encode_injective_creation :
    signedCreation.WellFormed ∧ reassembledCreation.WellFormed ∧
      signedCreation.encode.length < UInt64.size ∧
      signedCreation.encode = reassembledCreation.encode ∧
      signedCreation = reassembledCreation ∧
      signedCreation.sender = reassembledCreation.sender := by
  -- the one chain is named first: deciding the bound for all chains would run through 64 bits
  have sent : signedCreation.WellFormed := by
    refine ⟨⟨1, rfl⟩, fun _ chain known => ?_⟩
    obtain rfl : 1 = chain := Option.some.inj known
    decide
  have received : reassembledCreation.WellFormed := by
    refine ⟨⟨1, rfl⟩, fun _ chain known => ?_⟩
    obtain rfl : 1 = chain := Option.some.inj known
    decide
  have fits : signedCreation.encode.length < UInt64.size := by decide +kernel
  have same : signedCreation.encode = reassembledCreation.encode := by decide +kernel
  exact ⟨sent, received, fits, same, encode_injective sent received fits same⟩

theorem encode_onChain {price : Word} {chain : Option UInt64} (other : Option UInt64)
    (kind : signed.tx.kind = .legacy price chain) :
    encode { signed with tx := { signed.tx with kind := .legacy price other } } =
      signed.encode := by
  simp [encode_eq, signatureItems, Transaction.enveloped, Transaction.envelope,
    Transaction.isLegacy, Transaction.typeNumber, Transaction.fields, Transaction.callItems,
    Transaction.recipientItem, kind]

end StateTransition.SignedTransaction
