import StateTransition.Proofs.Scenario.Draft

/-!
How exact the funding checks are. Setting up and executing both compare the cost, cut off at the
largest word, with the balance: what is admitted can be paid, unless the balance is that word itself,
which stands for every cost beyond it.
-/

namespace StateTransition.Scenario

open Evm (eq_ok_of_toOption)

/-- A transaction has passed the checks against the sender's account: a draft was completed to it, or
it was accepted for execution. -/
inductive Admitted : World → Address → SignedTransaction → Prop where
  | completed {draft : TransactionDraft} {allocator : Allocator} {rules : Rules}
      {chainId : UInt64} {sender : Address} {signed : SignedTransaction}
      (known : draft.sender = some sender)
      (completes : draft.complete allocator rules chainId = .ok signed) :
      Admitted allocator.world sender signed
  | accepted {rules : Rules} {world : World} {environment : Environment}
      {signed : SignedTransaction} {accepted : Evm.Accepted}
      (validates : Evm.validate rules world environment signed = .ok accepted) :
      Admitted world accepted.sender signed

variable {world : World} {sender : Address} {signed : SignedTransaction}

theorem Admitted.covered (admitted : Admitted world sender signed) :
    Evm.cost signed.tx ≤ (world.balance sender).toNat ∨
      world.balance sender = Word.maximum := by
  cases admitted with
  | completed known completes =>
    obtain ⟨signer, same, checked⟩ := TransactionDraft.checked_of_complete completes
    rw [known] at same
    cases same
    rw [checked.tx, TransactionDraft.cost_transaction]
    exact Word.cutOff_le_iff.mp (TransactionDraft.checkFunds_eq_ok.mp checked.funds)
  | accepted validates => exact (Evm.accepts_of_validate validates).covered

/-- What is admitted costs at most the balance of its sender, except where the balance is the largest
word and the cost does not fit a word. -/
theorem admitted_pays_iff (admitted : Admitted world sender signed) :
    Evm.cost signed.tx ≤ (world.balance sender).toNat ↔
      ¬ (world.balance sender = Word.maximum ∧ Word.modulus ≤ Evm.cost signed.tx) := by
  have largest : Word.maximum.toNat + 1 = Word.modulus := rfl
  constructor
  · rintro paid ⟨full, beyond⟩
    rw [full] at paid
    omega
  · intro within
    rcases admitted.covered with paid | full
    · exact paid
    · have fits : ¬ Word.modulus ≤ Evm.cost signed.tx := fun beyond => within ⟨full, beyond⟩
      rw [full]
      omega

theorem admitted_pays_iff_capped :
    Admitted payer.world payerAddress signedPayment ∧
      (Evm.cost signedPayment.tx ≤ (payer.world.balance payerAddress).toNat ↔
        ¬ (payer.world.balance payerAddress = Word.maximum ∧
          Word.modulus ≤ Evm.cost signedPayment.tx)) := by
  have admitted : Admitted payer.world payerAddress signedPayment :=
    .completed rfl complete_cappedPayment
  exact ⟨admitted, admitted_pays_iff admitted⟩

def brimful : Allocator where
  world := .ofList [(payerAddress, { balance := Word.maximum })]
  keys := payer.keys

/-- Gives away all of it, and gas is still to be paid for. -/
def sweep : TransactionDraft where
  sender := some payerAddress
  recipient := some ⟨0x2000#160⟩
  value := Word.maximum

def signedSweep : SignedTransaction where
  tx := sweep.transaction 1 0
  v := 37
  r := ⟨0x6e3d6e5f36c27ee04c576a8246006afcb85bef7be8c807f5db0c2fe47a5b0f9d#256⟩
  s := ⟨0x228197e65a94fed2db456c08bbc368bbfaa163086864a44540853bfd7356b6ef#256⟩

theorem complete_sweep : sweep.complete brimful (Mainnet.rules .london) 1 = .ok signedSweep := by
  apply eq_ok_of_toOption
  rw [Mainnet.rules_eq_readOff]
  decide +kernel

/-- The sweep is completed and accepted, though the balance falls short of its cost. -/
theorem sweep_admitted_beyond_balance :
    sweep.complete brimful (Mainnet.rules .london) 1 = .ok signedSweep ∧
      Evm.validate (Mainnet.rules .london) brimful.world {} signedSweep =
        .ok ⟨payerAddress, 21000, 10#256⟩ ∧
      (brimful.world.balance payerAddress).toNat < Evm.cost signedSweep.tx := by
  refine ⟨complete_sweep, ?_, by decide⟩
  apply eq_ok_of_toOption
  rw [Mainnet.rules_eq_readOff]
  decide +kernel

end StateTransition.Scenario
