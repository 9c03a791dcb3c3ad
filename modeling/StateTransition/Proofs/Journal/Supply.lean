import StateTransition.Proofs.Journal.Records
import StateTransition.Proofs.World.Supply

namespace StateTransition.Evm.Journal

/-- The sum of all balances. -/
def supply (journal : Journal) : Nat := journal.world.supply

/-- Adding an amount to a balance gives a sum that is not cut off. -/
def Fits (journal : Journal) (address : Address) (amount : Word) : Prop :=
  (journal.balance address).toNat + amount.toNat < Word.modulus

/-- Every balance is the same, and so are the accounts scheduled for deletion. -/
structure SameFunds (before after : Journal) : Prop where
  balance : ∀ address, after.balance address = before.balance address
  supply : after.supply = before.supply
  destructed : after.destructed = before.destructed

namespace SameFunds

variable {before after : Journal}

theorem of_world_eq (world : after.world = before.world)
    (destructed : after.destructed = before.destructed) : SameFunds before after where
  balance address := by rw [Journal.balance, Journal.balance, world]
  supply := by rw [Journal.supply, Journal.supply, world]
  destructed := destructed

theorem refl (journal : Journal) : SameFunds journal journal := of_world_eq rfl rfl

theorem of_warms (warms : Warms before after) : SameFunds before after :=
  of_world_eq warms.world warms.destructed

theorem trans {middle : Journal} (first : SameFunds before middle)
    (second : SameFunds middle after) : SameFunds before after where
  balance address := (second.balance address).trans (first.balance address)
  supply := second.supply.trans first.supply
  destructed := second.destructed.trans first.destructed

theorem of_insert {address : Address} {account : Account}
    (world : after.world = before.world.insert address account)
    (same : account.balance = before.world.balance address)
    (destructed : after.destructed = before.destructed) : SameFunds before after where
  balance other := by
    rw [Journal.balance, world]
    exact before.world.balance_insert_of_balance_eq address same other
  supply := by
    rw [Journal.supply, world]
    exact before.world.supply_insert_of_balance_eq address same
  destructed := destructed

end SameFunds

variable (journal : Journal) (address : Address)

theorem sameFunds_touch : SameFunds journal (journal.touch address) := by
  rw [touch]
  split <;> exact .of_world_eq rfl rfl

theorem sameFunds_addRefund (amount : Int) : SameFunds journal (journal.addRefund amount) := by
  rw [addRefund]
  split <;> exact .of_world_eq rfl rfl

theorem sameFunds_ensure : SameFunds journal (journal.ensure address) :=
  .of_insert (world_ensure journal address) rfl (sameRecords_ensure journal address).destructed

theorem sameFunds_bumpNonce : SameFunds journal (journal.bumpNonce address) :=
  .of_insert (world_bumpNonce journal address) rfl (sameRecords_bumpNonce journal address).destructed

theorem sameFunds_setCode (code : Bytes) : SameFunds journal (journal.setCode address code) :=
  .of_insert (world_setCode journal address code) rfl
    (sameRecords_setCode journal address code).destructed

theorem sameFunds_setSlot (key value : Word) :
    SameFunds journal (journal.setSlot address key value) :=
  .of_insert (world_setSlot journal address key value) rfl
    (sameRecords_setSlot journal address key value).destructed

theorem sameFunds_createAccount (nonce : UInt64) :
    SameFunds journal (journal.createAccount address nonce) := by
  have marked (replaced : Journal) : SameFunds replaced
      (if replaced.created.contains address then replaced
      else { replaced with created := replaced.created.add address }.record
        (.createdInTransaction address)) := by
    split <;> exact .of_world_eq rfl rfl
  rw [createAccount]
  apply SameFunds.trans _ (marked _)
  cases held : journal.account? address with
  | some previous =>
    have same : previous.balance = journal.world.balance address := by
      rw [account?] at held
      rw [World.balance, World.account, held]
      rfl
    exact .of_insert rfl same rfl
  | none =>
    have nothing : (0#256 : Word) = journal.world.balance address := by
      rw [account?] at held
      rw [World.balance, World.account, held]
      rfl
    exact .of_insert rfl nothing rfl

@[simp] theorem destructed_setBalance (balance : Word) :
    (journal.setBalance address balance).destructed = journal.destructed :=
  (sameRecords_setBalance journal address balance).destructed

theorem balance_setBalance (balance : Word) (other : Address) :
    (journal.setBalance address balance).balance other =
      if address = other then balance else journal.balance other := by
  rw [Journal.balance, world_setBalance, World.balance_update]
  rfl

theorem supply_setBalance (balance : Word) :
    (journal.setBalance address balance).supply + (journal.balance address).toNat =
      journal.supply + balance.toNat := by
  rw [supply, world_setBalance]
  exact World.supply_update _ address _

variable {journal address}

theorem addBalance_of_fits {amount : Word} (fits : journal.Fits address amount) :
    journal.addBalance address amount =
      journal.setBalance address (journal.balance address + amount) := by
  have sum : Word.ofNat ((journal.balance address).toNat + amount.toNat) =
      journal.balance address + amount := by
    apply BitVec.eq_of_toNat_eq
    rw [Word.ofNat, BitVec.toNat_ofNat, BitVec.toNat_add]
  rw [Fits] at fits
  simp only [addBalance]
  rw [if_pos fits, sum]

theorem supply_addBalance {amount : Word} (fits : journal.Fits address amount) :
    (journal.addBalance address amount).supply = journal.supply + amount.toNat := by
  have stored := supply_setBalance journal address (journal.balance address + amount)
  have sum : (journal.balance address + amount).toNat =
      (journal.balance address).toNat + amount.toNat := by
    rw [BitVec.toNat_add]
    exact Nat.mod_eq_of_lt fits
  rw [addBalance_of_fits fits]
  rw [sum] at stored
  omega

theorem supply_debit {amount : Word} (payable : journal.cannotPay address amount = false) :
    (journal.debit address amount).supply + amount.toNat = journal.supply := by
  have enough := le_balance_of_payable payable
  have stored := supply_setBalance journal address (journal.balance address - amount)
  have difference : (journal.balance address - amount).toNat =
      (journal.balance address).toNat - amount.toNat := BitVec.toNat_sub_of_le enough
  rw [difference] at stored
  rw [debit]
  omega

theorem fits_debit {amount : Word} (payable : journal.cannotPay address amount = false)
    (bounded : journal.supply < Word.modulus) (recipient : Address) :
    (journal.debit address amount).Fits recipient amount := by
  have debited := supply_debit payable
  have share := (journal.debit address amount).world.balance_le_supply recipient
  have total : ((journal.debit address amount).balance recipient).toNat ≤
      (journal.debit address amount).supply := share
  rw [Fits]
  omega

theorem supply_move {amount : Word} (payable : journal.cannotPay address amount = false)
    (bounded : journal.supply < Word.modulus) (recipient : Address) :
    (journal.move address recipient amount).supply = journal.supply := by
  have debited := supply_debit payable
  have credited := supply_addBalance (fits_debit payable bounded recipient)
  have first := (sameFunds_touch ((journal.debit address amount).addBalance recipient amount)
    address).supply
  have second := (sameFunds_touch (((journal.debit address amount).addBalance recipient
    amount).touch address) recipient).supply
  rw [move, second, first, credited, debited]

theorem destructed_move (amount : Word) (recipient : Address) :
    (journal.move address recipient amount).destructed = journal.destructed := by
  rw [move, (sameFunds_touch _ recipient).destructed, (sameFunds_touch _ address).destructed,
    addBalance, debit, destructed_setBalance, destructed_setBalance]

end StateTransition.Evm.Journal
