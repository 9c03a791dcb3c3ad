import StateTransition.Proofs.Execution.Validation

/-!
What a transaction may cost against what its sender holds. The cost is a number of up to 320 bits
that is compared as a word, and an amount that does not fit a word is cut off at the largest one.
-/

namespace StateTransition

namespace Word

/-- An amount as a word, cut off at the largest. -/
def cutOff (amount : Nat) : Word := if amount < modulus then ofNat amount else maximum

theorem toNat_cutOff (amount : Nat) : (cutOff amount).toNat = min amount (modulus - 1) := by
  rw [cutOff]
  split
  · rename_i fits
    rw [ofNat, BitVec.toNat_ofNat, Nat.min_eq_left (Nat.le_sub_one_of_lt fits)]
    exact Nat.mod_eq_of_lt fits
  · rename_i exceeds
    rw [Nat.min_eq_right (by omega)]
    rfl

theorem cutOff_le_iff {amount : Nat} {word : Word} :
    cutOff amount ≤ word ↔ amount ≤ word.toNat ∨ word = maximum := by
  have bound : word.toNat < modulus := word.isLt
  have largest : word = maximum ↔ word.toNat = modulus - 1 := BitVec.toNat_inj.symm
  rw [BitVec.le_def, toNat_cutOff, largest]
  omega

end Word

namespace Evm

/-- Gas at the highest price and the value, as a number. -/
def cost (tx : Transaction) : Nat := tx.maxFee.toNat * tx.gasLimit.toNat + tx.value.toNat

theorem worstCost_eq_cutOff (tx : Transaction) : worstCost tx = Word.cutOff (cost tx) := rfl

theorem Accepts.covered {rules : Rules} {world : World} {environment : Environment}
    {signed : SignedTransaction} {accepted : Accepted}
    (accepts : Accepts rules world environment signed accepted) :
    cost signed.tx ≤ (world.balance accepted.sender).toNat ∨
      world.balance accepted.sender = Word.maximum := by
  have funds := accepts.funds
  rw [worstCost_eq_cutOff] at funds
  exact Word.cutOff_le_iff.mp funds

end Evm

end StateTransition
