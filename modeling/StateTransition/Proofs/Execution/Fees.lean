import StateTransition.Proofs.Execution.Gas
import StateTransition.Proofs.Journal.Supply

namespace StateTransition.Evm

theorem price_bounds {tx : Transaction} {baseFee price : Word} (least : baseFee ≤ tx.maxFee)
    (effective : tx.effectiveGasPrice baseFee = some price) :
    baseFee.toNat ≤ price.toNat ∧ price.toNat ≤ tx.maxFee.toNat := by
  have bound : baseFee.toNat ≤ tx.maxFee.toNat := BitVec.le_def.mp least
  rw [Transaction.effectiveGasPrice] at effective
  rw [Transaction.maxFee] at bound ⊢
  cases kind : tx.kind with
  | legacy gasPrice chainId =>
    simp only [kind] at effective bound ⊢
    cases effective
    exact ⟨bound, Nat.le_refl _⟩
  | accessList chainId gasPrice items =>
    simp only [kind] at effective bound ⊢
    cases effective
    exact ⟨bound, Nat.le_refl _⟩
  | dynamicFee chainId maxPriorityFee maxFee items =>
    simp only [kind] at effective bound ⊢
    split at effective
    · cases effective
    · cases effective
      have room : (maxFee - baseFee).toNat = maxFee.toNat - baseFee.toNat :=
        BitVec.toNat_sub_of_le (BitVec.le_def.mpr bound)
      have fits := maxFee.isLt
      have share (tip : Word) (within : tip.toNat ≤ (maxFee - baseFee).toNat) :
          (baseFee + tip).toNat = baseFee.toNat + tip.toNat := by
        rw [BitVec.toNat_add]
        apply Nat.mod_eq_of_lt
        omega
      split
      · rename_i within
        rw [share maxPriorityFee (BitVec.le_def.mp within)]
        have := BitVec.le_def.mp within
        omega
      · rw [share (maxFee - baseFee) (Nat.le_refl _)]
        omega

theorem toNat_fee {price : Word} {gas : Nat} (fits : price.toNat * gas < Word.modulus) :
    (price * Word.ofNat gas).toNat = price.toNat * gas := by
  rw [BitVec.toNat_mul, Word.ofNat, BitVec.toNat_ofNat, Nat.mul_mod, Nat.mod_mod, ← Nat.mul_mod]
  exact Nat.mod_eq_of_lt fits

/-- What nobody gets of the price of the gas that was used. -/
def burnt (rules : Rules) (environment : Environment) (used : Nat) : Nat :=
  if rules.isActive .baseFee then environment.baseFee.toNat * used else 0

theorem toNat_minerPrice {rules : Rules} {environment : Environment} {price : Word} (used : Nat)
    (least : rules.isActive .baseFee = true → environment.baseFee.toNat ≤ price.toNat) :
    (minerPrice rules environment price).toNat * used + burnt rules environment used =
      price.toNat * used := by
  rw [minerPrice, burnt]
  cases active : rules.isActive .baseFee with
  | false => simp
  | true =>
    have enough := least active
    have covered : ¬ price < environment.baseFee := by
      rw [BitVec.lt_def]
      omega
    have difference : (price - environment.baseFee).toNat =
        price.toNat - environment.baseFee.toNat := BitVec.toNat_sub_of_le enough
    rw [if_pos rfl, if_pos rfl, if_neg covered, difference, ← Nat.add_mul]
    rw [Nat.sub_add_cancel enough]

theorem minerPrice_le {rules : Rules} {environment : Environment} {price : Word} :
    (minerPrice rules environment price).toNat ≤ price.toNat := by
  rw [minerPrice]
  split
  · split
    · exact Nat.zero_le _
    · rename_i covered
      have enough : environment.baseFee.toNat ≤ price.toNat := by
        rw [BitVec.lt_def] at covered
        omega
      rw [BitVec.toNat_sub_of_le enough]
      exact Nat.sub_le _ _
  · exact Nat.le_refl _

namespace Accepts

variable {rules : Rules} {world : World} {environment : Environment} {signed : SignedTransaction}
  {accepted : Accepted}

theorem gasPrice_bounds (accepts : Accepts rules world environment signed accepted) :
    (rules.isActive .baseFee = true →
      environment.baseFee.toNat ≤ accepted.gasPrice.toNat) ∧
      accepted.gasPrice.toNat ≤ signed.tx.maxFee.toNat := by
  have price := accepts.price
  cases active : rules.isActive .baseFee with
  | false =>
    rw [active, if_neg (by simp)] at price
    have bounds := price_bounds (BitVec.le_def.mpr (Nat.zero_le _)) price
    exact ⟨by simp, bounds.2⟩
  | true =>
    rw [active, if_pos rfl] at price
    have bounds := price_bounds (accepts.baseFee_le active) price
    exact ⟨fun _ => bounds.1, bounds.2⟩

end Accepts

namespace Journal

theorem sameFunds_prepare (rules : Rules) (environment : Environment) (tx : Transaction)
    (accepted : Accepted) (charged : Journal) :
    SameFunds charged (prepare rules environment tx accepted charged) :=
  (sameFunds_bumpNonce charged accepted.sender).trans
    (.of_warms (warms_prewarm _ rules environment tx accepted.sender _))

theorem supply_foldl_erase_le (keys : List Address) (world : World) :
    (keys.foldl World.erase world).supply ≤ world.supply := by
  induction keys generalizing world with
  | nil => exact Nat.le_refl _
  | cons key rest ih =>
    have erased := world.supply_erase key
    calc (rest.foldl World.erase (world.erase key)).supply
      _ ≤ (world.erase key).supply := ih _
      _ ≤ world.supply := by omega

theorem supply_eraseIfEmpty (world : World) (address : Address) :
    (eraseIfEmpty world address).supply = world.supply := by
  rw [eraseIfEmpty]
  cases held : world.get? address with
  | none => rfl
  | some account =>
    simp only [Option.any_some]
    split
    · rename_i empty
      have nothing : (world.balance address).toNat = 0 := by
        rw [World.toNat_balance, held]
        simp only [Account.isEmpty, Word.isZero, Bool.and_eq_true, beq_iff_eq] at empty
        simp [empty.1.2]
      have erased := world.supply_erase address
      omega
    · rfl

theorem supply_foldl_eraseIfEmpty (keys : List Address) (world : World) :
    (keys.foldl eraseIfEmpty world).supply = world.supply := by
  induction keys generalizing world with
  | nil => rfl
  | cons key rest ih => rw [List.foldl_cons, ih, supply_eraseIfEmpty]

theorem supply_finish (journal : Journal) (cleanup : Bool) :
    (journal.finish cleanup).1.supply ≤ journal.supply ∧
      (journal.destructed = ∅ → (journal.finish cleanup).1.supply = journal.supply) := by
  have cleaned : (journal.finish cleanup).1.supply =
      (journal.destructed.keys.foldl World.erase journal.world).supply := by
    rw [finish]
    cases cleanup with
    | false => rfl
    | true => exact supply_foldl_eraseIfEmpty _ _
  rw [cleaned]
  constructor
  · exact supply_foldl_erase_le _ _
  · intro empty
    rw [empty]
    rfl

end Journal

end StateTransition.Evm
