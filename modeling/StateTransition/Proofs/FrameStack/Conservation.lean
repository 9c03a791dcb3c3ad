import StateTransition.Proofs.FrameStack.Invariant
import StateTransition.Proofs.Journal.Supply

namespace StateTransition.Evm

namespace Journal

/-- The supply is at most a total, and all of it while no account is scheduled for deletion. -/
structure Conserves (total : Nat) (journal : Journal) : Prop where
  le : journal.supply ≤ total
  exact : journal.destructed = ∅ → journal.supply = total

variable {total : Nat} {before after journal : Journal} {address : Address}

theorem Conserves.of_sameFunds (conserves : Conserves total before) (same : SameFunds before after) :
    Conserves total after where
  le := by
    rw [same.supply]
    exact conserves.le
  exact empty := by
    rw [same.destructed] at empty
    rw [same.supply]
    exact conserves.exact empty

theorem Conserves.move {amount : Word} (conserves : Conserves total journal)
    (bounded : total < Word.modulus) (payable : journal.cannotPay address amount = false)
    (recipient : Address) : Conserves total (journal.move address recipient amount) := by
  have small : journal.supply < Word.modulus := Nat.lt_of_le_of_lt conserves.le bounded
  have moved := supply_move payable small recipient
  constructor
  · rw [moved]
    exact conserves.le
  · intro empty
    rw [destructed_move] at empty
    rw [moved]
    exact conserves.exact empty

theorem destructed_markDestructed_ne_empty (journal : Journal) (address : Address) :
    (journal.markDestructed address).2.destructed ≠ ∅ := by
  intro empty
  have absent : (journal.markDestructed address).2.destructed.get? address = none := by
    rw [empty]
    rfl
  rw [markDestructed] at absent
  split at absent
  · rename_i present
    rw [SortedMap.contains, absent] at present
    cases present
  · have present : (journal.destructed.add address).get? address = some () :=
      SortedMap.get?_insert_self _ _ _
    rw [record] at absent
    rw [present] at absent
    cases absent

theorem supply_markDestructed (journal : Journal) (address : Address) :
    (journal.markDestructed address).2.supply = journal.supply := by
  rw [markDestructed]
  split <;> rfl

theorem conserves_markDestructed (le : journal.supply ≤ total) (address : Address) :
    Conserves total (journal.markDestructed address).2 := by
  constructor
  · rw [supply_markDestructed]
    exact le
  · intro empty
    exact absurd empty (destructed_markDestructed_ne_empty journal address)

theorem fits_balance {other : Address} (different : address ≠ other)
    (bounded : journal.supply < Word.modulus) : journal.Fits address (journal.balance other) :=
  Nat.lt_of_le_of_lt (journal.world.balance_add_balance_le_supply address different) bounded

theorem supply_give {beneficiary : Address} (different : beneficiary ≠ address)
    (bounded : journal.supply < Word.modulus) :
    ((journal.addBalance beneficiary (journal.balance address)).setBalance address 0#256).supply =
      journal.supply := by
  have fits := fits_balance different bounded
  have credited := supply_addBalance fits
  have kept : (journal.addBalance beneficiary (journal.balance address)).balance address =
      journal.balance address := by
    rw [addBalance_of_fits fits, balance_setBalance, if_neg different]
  have emptied := supply_setBalance (journal.addBalance beneficiary (journal.balance address))
    address 0#256
  rw [kept] at emptied
  simp only [BitVec.toNat_ofNat, Nat.zero_mod, Nat.add_zero] at emptied
  omega

theorem supply_setBalance_zero_le (journal : Journal) (address : Address) :
    (journal.setBalance address 0#256).supply ≤ journal.supply := by
  have emptied := supply_setBalance journal address 0#256
  simp only [BitVec.toNat_ofNat, Nat.zero_mod, Nat.add_zero] at emptied
  omega

theorem Conserves.give {beneficiary : Address} (conserves : Conserves total journal)
    (bounded : total < Word.modulus) (different : beneficiary ≠ address) :
    Conserves total
      ((journal.addBalance beneficiary (journal.balance address)).setBalance address 0#256) := by
  have given := supply_give different (Nat.lt_of_le_of_lt conserves.le bounded)
  constructor
  · rw [given]
    exact conserves.le
  · intro empty
    rw [destructed_setBalance, addBalance, destructed_setBalance] at empty
    rw [given]
    exact conserves.exact empty

theorem Conserves.closeAccount (conserves : Conserves total journal)
    (bounded : total < Word.modulus) (rules : Rules) (address beneficiary : Address) :
    Conserves total (Exec.closeAccount rules address beneficiary journal) := by
  simp only [Exec.closeAccount]
  generalize (!rules.isActive .selfdestructSameTxOnly || journal.isCreated address) = destroys
  have refunded : Conserves total
      (if (destroys && !journal.isDestructed address) = true then
        journal.addRefund (Gas.signed (rules.amount .selfdestructRefund)) else journal) := by
    split
    · exact conserves.of_sameFunds (sameFunds_addRefund journal _)
    · exact conserves
  generalize (if (destroys && !journal.isDestructed address) = true then
    journal.addRefund (Gas.signed (rules.amount .selfdestructRefund)) else journal) = start
    at refunded ⊢
  -- The balance is given to another account, burnt with its account, or left where it is.
  by_cases different : beneficiary ≠ address
  · rw [if_pos different]
    have given := refunded.give bounded different
    have touched := given.of_sameFunds (sameFunds_touch _ beneficiary)
    split
    · exact conserves_markDestructed touched.le address
    · exact touched
  · rw [if_neg different]
    cases destroys with
    | true =>
      have touched := sameFunds_touch (start.setBalance address 0#256) beneficiary
      apply conserves_markDestructed
      rw [if_pos rfl, touched.supply]
      exact Nat.le_trans (supply_setBalance_zero_le start address) refunded.le
    | false => exact refunded.of_sameFunds (sameFunds_touch start beneficiary)

end Journal

variable {setting : Setting} {total : Nat} {attempt asked : Attempt} {journal start : Journal}

theorem conserves_effect {machine after : Machine} (effect : Effect setting machine after)
    (bounded : total < Word.modulus) (conserves : machine.journal.Conserves total) :
    after.journal.Conserves total := by
  cases effect with
  | compute frame context gas => exact conserves
  | warmAccount address =>
    exact conserves.of_sameFunds (.of_warms (Journal.warms_warmAccount _ address))
  | warmSlot address key =>
    exact conserves.of_sameFunds (.of_warms (Journal.warms_warmSlot _ address key))
  | store key value cold mutable =>
    exact (conserves.of_sameFunds (Journal.sameFunds_addRefund _ _)).of_sameFunds
      (Journal.sameFunds_setSlot _ _ key value)
  | storeTransient key value mutable => exact conserves.of_sameFunds (.of_world_eq rfl rfl)
  | emit log mutable => exact conserves.of_sameFunds (.of_world_eq rfl rfl)
  | close beneficiary mutable => exact conserves.closeAccount bounded _ _ beneficiary

theorem sameFunds_base (setting : Setting) (journal : Journal) (attempt : Attempt) :
    Journal.SameFunds journal (attempt.base setting journal) :=
  Attempt.rel_base .refl .trans Journal.sameFunds_bumpNonce
    (fun start address => .of_warms (Journal.warms_warmTarget start address setting.rules))
    journal attempt

theorem conserves_call {rules : Rules} {request : CallRequest} {opened : Journal}
    (opens : request.Opens rules journal opened) (bounded : total < Word.modulus)
    (conserves : journal.Conserves total) : opened.Conserves total := by
  have ensured := conserves.of_sameFunds (Journal.sameFunds_ensure journal request.address)
  rw [opens.result, payCallee]
  split
  · rename_i transfers
    exact ensured.move bounded (payable_of_accepted opens.accepted transfers) request.address
  · exact ensured.of_sameFunds (Journal.sameFunds_touch _ _)

theorem conserves_create {rules : Rules} {request : CreateRequest} {address : Address}
    {opened : Journal} (opens : request.Opens rules journal address opened)
    (bounded : total < Word.modulus) (conserves : journal.Conserves total) :
    opened.Conserves total := by
  rw [opens.result]
  have created := conserves.of_sameFunds
    (Journal.sameFunds_createAccount journal address (freshNonce rules))
  exact created.move bounded opens.payable address

theorem runInvariant_conserves (setting : Setting) (bounded : total < Word.modulus) :
    RunInvariant setting (Journal.Conserves total) where
  step step _ conserves := (Machine.effects_of_step step).holds
    (fun effect conserves => conserves_effect effect bounded conserves) conserves
  base attempt journal conserves := conserves.of_sameFunds (sameFunds_base setting journal attempt)
  opens {attempt journal opened} opens conserves := by
    cases attempt with
    | call request => exact conserves_call opens bounded conserves
    | create request => exact conserves_create opens.2 bounded conserves
    | deploy request address => exact conserves_create opens bounded conserves
  setCode address code journal conserves :=
    conserves.of_sameFunds (Journal.sameFunds_setCode journal address code)

namespace FrameStack

/-- The attempts of a run, each with the journal it is made in. -/
inductive Made (setting : Setting) (attempt : Attempt) (journal : Journal) :
    Attempt → Journal → Prop where
  | outermost : Made setting attempt journal attempt journal
  | byFrame {stack : FrameStack} {openings : List Opened} {action : Action} {after : Machine}
      {asked : Attempt} (underway : Underway setting attempt journal stack openings)
      (step : stack.machine.step setting = (some action, after))
      (asks : action.attempt? = some asked) : Made setting attempt journal asked after.journal

/-- Every addition to a balance while frames run: the journal it is made in, the account and the
amount. -/
inductive Credits (setting : Setting) (attempt : Attempt) (journal : Journal) :
    Journal → Address → Word → Prop where
  | call {request : CallRequest} {start : Journal}
      (made : Made setting attempt journal (.call request) start)
      (accepted : refusesCall setting.rules start request = false)
      (transfers : request.transfers = true) :
      Credits setting attempt journal
        ((start.ensure request.address).debit request.caller request.value) request.address
        request.value
  | create {request : CreateRequest} {start opened : Journal}
      (made : Made setting attempt journal (.create request) start)
      (opens : (Attempt.create request).Opens setting start opened) :
      Credits setting attempt journal
        ((((Attempt.create request).base setting start).createAccount (createTarget start request)
          (freshNonce setting.rules)).debit request.caller request.value)
        (createTarget start request) request.value
  | deploy {request : CreateRequest} {address : Address} {start opened : Journal}
      (made : Made setting attempt journal (.deploy request address) start)
      (opens : (Attempt.deploy request address).Opens setting start opened) :
      Credits setting attempt journal
        ((((Attempt.deploy request address).base setting start).createAccount address
          (freshNonce setting.rules)).debit request.caller request.value) address request.value
  | close {stack : FrameStack} {openings : List Opened} {machine : Machine} {beneficiary : Address}
      (underway : Underway setting attempt journal stack openings)
      (effects : Effects setting stack.machine machine)
      (different : beneficiary ≠ machine.frame.context.address) :
      Credits setting attempt journal machine.journal beneficiary
        (machine.journal.balance machine.frame.context.address)

theorem conserves_made (bounded : total < Word.modulus) (conserves : journal.Conserves total)
    (made : Made setting attempt journal asked start) : start.Conserves total := by
  have invariant := runInvariant_conserves setting bounded
  cases made with
  | outermost => exact conserves
  | byFrame underway step asks =>
    exact invariant.step step (ne_overflow_of_asks asks) (underway.holdsAlong invariant conserves).1

theorem Credits.fits {here : Journal} {address : Address} {amount : Word}
    (bounded : total < Word.modulus) (conserves : journal.Conserves total)
    (credits : Credits setting attempt journal here address amount) : here.Fits address amount := by
  have small {later : Journal} (conserved : later.Conserves total) :
      later.supply < Word.modulus := Nat.lt_of_le_of_lt conserved.le bounded
  have endows {request : CreateRequest} {base opened : Journal} {target : Address}
      (based : base.Conserves total) (opens : request.Opens setting.rules base target opened) :
      ((base.createAccount target (freshNonce setting.rules)).debit request.caller
        request.value).Fits target request.value := by
    have created := based.of_sameFunds
      (Journal.sameFunds_createAccount base target (freshNonce setting.rules))
    exact Journal.fits_debit opens.payable (small created) target
  cases credits with
  | @call request start made accepted transfers =>
    have ensured := (conserves_made bounded conserves made).of_sameFunds
      (Journal.sameFunds_ensure start request.address)
    exact Journal.fits_debit (payable_of_accepted accepted transfers) (small ensured) _
  | @create request start opened made opens =>
    have based := (conserves_made bounded conserves made).of_sameFunds
      (sameFunds_base setting start (.create request))
    exact endows based opens.2
  | @deploy request address start opened made opens =>
    have based := (conserves_made bounded conserves made).of_sameFunds
      (sameFunds_base setting start (.deploy request address))
    exact endows based opens
  | close underway effects different =>
    have invariant := runInvariant_conserves setting bounded
    have here := effects.holds (fun effect conserves => conserves_effect effect bounded conserves)
      (underway.holdsAlong invariant conserves).1
    exact Journal.fits_balance different (small here)

end FrameStack

end StateTransition.Evm
