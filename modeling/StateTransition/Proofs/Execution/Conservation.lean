import StateTransition.Proofs.Execution.Fees
import StateTransition.Proofs.FrameStack.Conservation

/-!
Conservation of ether. A completed transaction burns the base fee, and loses at most what accounts
scheduled for deletion hold; no sequence of transactions makes ether.
-/

namespace StateTransition.Evm

open FrameStack

/-- The sender holds what the transaction can cost at most, as a number. -/
def CoversCost (world : World) (signed : SignedTransaction) : Prop :=
  ∀ sender, signed.sender = .ok sender →
    signed.tx.maxFee.toNat * signed.tx.gasLimit.toNat + signed.tx.value.toNat ≤
      (world.balance sender).toNat

/-- How a completed transaction that burns some ether treats the supply. -/
structure ConservesEther (rules : Rules) (world : World) (environment : Environment)
    (signed : SignedTransaction) (accepted : Accepted) (charged : Journal) (completion : Completion)
    (burn : Nat) (result : ExecutionResult) : Prop where
  le : result.post.supply + burn ≤ world.supply
  exact : completion.journal.destructed = ∅ → result.post.supply + burn = world.supply
  /-- No addition to a balance is cut off: not while frames run, not when the sender is paid back,
  and not when the coinbase is paid. -/
  credits : ∀ journal address amount,
    Credits (accepted.setting rules environment)
      (.ofTransaction signed.tx accepted.sender
        (signed.tx.gasLimit.toNat - accepted.intrinsic))
      (prepare rules environment signed.tx accepted charged) journal address amount →
    journal.Fits address amount
  repays : completion.journal.Fits accepted.sender
    (repayment (accepted.setting rules environment) signed.tx
      (.of rules signed.tx completion))
  rewards : (completion.journal.addBalance accepted.sender
    (repayment (accepted.setting rules environment) signed.tx
      (.of rules signed.tx completion))).Fits environment.coinbase
    (reward (accepted.setting rules environment) (.of rules signed.tx completion))

variable {rules : Rules} {limits : Limits} {world : World} {environment : Environment}
  {signed : SignedTransaction} {accepted : Accepted} {charged : Journal} {completion : Completion}

theorem GasBill.used_of_le (rules : Rules) (tx : Transaction) (completion : Completion) :
    (GasBill.of rules tx completion).used ≤ tx.gasLimit.toNat :=
  Nat.le_trans (Nat.sub_le _ _) (Nat.sub_le _ _)

theorem toNat_repayment
    (fee : accepted.gasPrice.toNat * signed.tx.gasLimit.toNat < Word.modulus) (bill : GasBill) :
    (repayment (accepted.setting rules environment) signed.tx bill).toNat =
      accepted.gasPrice.toNat * (signed.tx.gasLimit.toNat - bill.used) :=
  toNat_fee (Nat.lt_of_le_of_lt (Nat.mul_le_mul_left _ (Nat.sub_le _ _)) fee)

theorem toNat_reward (rules : Rules) (environment : Environment)
    (fee : accepted.gasPrice.toNat * signed.tx.gasLimit.toNat < Word.modulus) {bill : GasBill}
    (within : bill.used ≤ signed.tx.gasLimit.toNat) :
    (reward (accepted.setting rules environment) bill).toNat =
      (minerPrice rules environment accepted.gasPrice).toNat * bill.used :=
  toNat_fee (Nat.lt_of_le_of_lt (Nat.mul_le_mul minerPrice_le within) fee)

namespace Completes

theorem fee_lt (completes : Completes rules limits world environment signed accepted charged completion)
    (covered : CoversCost world signed) :
    accepted.gasPrice.toNat * signed.tx.gasLimit.toNat < Word.modulus := by
  have bounds := completes.accepts.gasPrice_bounds
  have funds := covered accepted.sender completes.accepts.sender
  have held := (world.balance accepted.sender).isLt
  calc accepted.gasPrice.toNat * signed.tx.gasLimit.toNat
    _ ≤ signed.tx.maxFee.toNat * signed.tx.gasLimit.toNat := Nat.mul_le_mul_right _ bounds.2
    _ ≤ (world.balance accepted.sender).toNat := by omega
    _ < Word.modulus := held

theorem supply_charged
    (completes : Completes rules limits world environment signed accepted charged completion)
    (fee : accepted.gasPrice.toNat * signed.tx.gasLimit.toNat < Word.modulus) :
    charged.supply + accepted.gasPrice.toNat * signed.tx.gasLimit.toNat = world.supply ∧
      charged.destructed = ∅ := by
  obtain ⟨payable, charged⟩ := debit_of_charge completes.charges
  rw [charged]
  constructor
  · have debited := Journal.supply_debit payable
    rw [toNat_fee fee] at debited
    exact debited
  · rw [Journal.debit, Journal.destructed_setBalance]
    rfl

theorem conserves
    (completes : Completes rules limits world environment signed accepted charged completion)
    (bounded : charged.supply < Word.modulus) :
    (prepare rules environment signed.tx accepted charged).Conserves charged.supply ∧
      completion.journal.Conserves charged.supply := by
  have start : charged.Conserves charged.supply := ⟨Nat.le_refl _, fun _ => rfl⟩
  have prepared := start.of_sameFunds
    (Journal.sameFunds_prepare rules environment signed.tx accepted charged)
  obtain ⟨remaining, ends⟩ := completes.ends
  exact ⟨prepared, ends.holds_left (runInvariant_conserves _ bounded) prepared⟩

/-- The sender, the coinbase and the fire share the price of the gas limit. -/
theorem fee_shares
    (completes : Completes rules limits world environment signed accepted charged completion)
    (fee : accepted.gasPrice.toNat * signed.tx.gasLimit.toNat < Word.modulus) :
    (repayment (accepted.setting rules environment) signed.tx
      (.of rules signed.tx completion)).toNat +
      ((reward (accepted.setting rules environment) (.of rules signed.tx completion)).toNat +
        burnt rules environment (GasBill.of rules signed.tx completion).used) =
      accepted.gasPrice.toNat * signed.tx.gasLimit.toNat := by
  have within := GasBill.used_of_le rules signed.tx completion
  generalize GasBill.of rules signed.tx completion = bill at within ⊢
  have shared := toNat_minerPrice bill.used completes.accepts.gasPrice_bounds.1
  rw [toNat_repayment fee, toNat_reward rules environment fee within, shared, ← Nat.mul_add,
    Nat.sub_add_cancel within]

end Completes

namespace Journal

variable {total : Nat} {journal : Journal} {sender coinbase : Address} {back tip : Word}

theorem Conserves.settle (conserves : journal.Conserves total)
    (bounded : total + (back.toNat + tip.toNat) < Word.modulus) (sender coinbase : Address)
    (cleanup : Bool) :
    journal.Fits sender back ∧
      (journal.addBalance sender back).Fits coinbase tip ∧
      (((((journal.addBalance sender back).addBalance coinbase tip).touch coinbase).finish
        cleanup).1.supply ≤ total + (back.toNat + tip.toNat)) ∧
      (journal.destructed = ∅ →
        ((((journal.addBalance sender back).addBalance coinbase tip).touch coinbase).finish
          cleanup).1.supply = total + (back.toNat + tip.toNat)) := by
  have le := conserves.le
  have share : (journal.balance sender).toNat ≤ journal.supply :=
    journal.world.balance_le_supply sender
  have repays : journal.Fits sender back := by
    rw [Fits]
    omega
  have repaid := supply_addBalance repays
  have part : ((journal.addBalance sender back).balance coinbase).toNat ≤
      (journal.addBalance sender back).supply := World.balance_le_supply _ coinbase
  have rewards : (journal.addBalance sender back).Fits coinbase tip := by
    rw [Fits]
    omega
  have rewarded := supply_addBalance rewards
  have touched := sameFunds_touch ((journal.addBalance sender back).addBalance coinbase tip) coinbase
  have scheduled : ((journal.addBalance sender back).addBalance coinbase tip).destructed =
      journal.destructed := by
    rw [addBalance, destructed_setBalance, addBalance, destructed_setBalance]
  have closed := supply_finish
    (((journal.addBalance sender back).addBalance coinbase tip).touch coinbase) cleanup
  rw [touched.supply, touched.destructed, scheduled] at closed
  refine ⟨repays, rewards, ?_, ?_⟩
  · omega
  · intro empty
    have exact := conserves.exact empty
    have equal := closed.2 empty
    omega

end Journal

theorem conservesEther_of_completes
    (completes : Completes rules limits world environment signed accepted charged completion)
    (bounded : world.supply < Word.modulus)
    (fee : accepted.gasPrice.toNat * signed.tx.gasLimit.toNat < Word.modulus) :
    ConservesEther rules world environment signed accepted charged completion
      (burnt rules environment (execute rules limits world environment signed).gasUsed)
      (execute rules limits world environment signed) := by
  obtain ⟨paid, fresh⟩ := completes.supply_charged fee
  have small : charged.supply < Word.modulus := by omega
  obtain ⟨prepared, kept⟩ := completes.conserves small
  have shares := completes.fee_shares fee
  have room : charged.supply +
      ((repayment (accepted.setting rules environment) signed.tx
        (.of rules signed.tx completion)).toNat +
        (reward (accepted.setting rules environment) (.of rules signed.tx completion)).toNat) <
      Word.modulus := by omega
  obtain ⟨repays, rewards, le, exact⟩ := kept.settle room accepted.sender environment.coinbase
    (rules.isActive .emptyAccountCleanup)
  have used : (settleFees (accepted.setting rules environment) world signed.tx completion).gasUsed =
      (GasBill.of rules signed.tx completion).used := rfl
  change (settleFees (accepted.setting rules environment) world signed.tx completion).post.supply ≤ _
    at le
  change _ → (settleFees (accepted.setting rules environment) world signed.tx completion).post.supply
    = _ at exact
  rw [completes.settles]
  constructor
  · rw [used]
    omega
  · intro empty
    have equal := exact empty
    rw [used]
    omega
  · intro journal address amount credits
    exact credits.fits small prepared
  · exact repays
  · exact rewards

structure Submission where
  fork : Fork
  limits : Limits
  environment : Environment
  signed : SignedTransaction

def Submission.execute (submission : Submission) (world : World) : ExecutionResult :=
  Evm.execute (Mainnet.rules submission.fork) submission.limits world submission.environment
    submission.signed

def executeAll (world : World) (submissions : List Submission) : World :=
  submissions.foldl (fun world submission => (submission.execute world).post) world

def AllCovered : World → List Submission → Prop
  | _, [] => True
  | world, submission :: rest =>
    ((submission.execute world).isCompleted = true → CoversCost world submission.signed) ∧
      AllCovered (submission.execute world).post rest

theorem supply_executeAll_le {submissions : List Submission}
    (bounded : world.supply < Word.modulus) (covered : AllCovered world submissions) :
    (executeAll world submissions).supply ≤ world.supply := by
  induction submissions generalizing world with
  | nil => exact Nat.le_refl _
  | cons submission rest ih =>
    obtain ⟨first, later⟩ := covered
    have step : (submission.execute world).post.supply ≤ world.supply := by
      cases ending : (submission.execute world).isCompleted with
      | false =>
        have unchanged : (submission.execute world).post = world := post_of_not_isCompleted ending
        exact Nat.le_of_eq (congrArg World.supply unchanged)
      | true =>
        obtain ⟨accepted, charged, completion, completes⟩ := completes_of_isCompleted ending
        have fee := completes.fee_lt (first ending)
        exact Nat.le_trans (Nat.le_add_right _ _)
          (conservesEther_of_completes completes bounded fee).le
    exact Nat.le_trans (ih (Nat.lt_of_le_of_lt step bounded) later) step

theorem burnt_mainnet (fork : Fork) (environment : Environment) (used : Nat) :
    burnt (Mainnet.rules fork) environment used =
      if Fork.london ≤ fork then environment.baseFee.toNat * used else 0 := by
  rw [burnt, Mainnet.isActive_baseFee]
  by_cases london : Fork.london ≤ fork <;> simp [london]

/-- At every fork of the main network a completed transaction conserves the supply but for the base
fee it burns from London on and for what accounts scheduled for deletion hold, and no addition to a
balance on the way is cut off. No sequence of transactions, at any forks and in any blocks, makes
ether. -/
theorem ether_conserved :
    (∀ fork limits world environment signed,
      (execute (Mainnet.rules fork) limits world environment signed).isCompleted = true →
      world.supply < Word.modulus → CoversCost world signed →
      ∃ accepted charged completion,
        Completes (Mainnet.rules fork) limits world environment signed accepted charged completion ∧
        ConservesEther (Mainnet.rules fork) world environment signed accepted charged completion
          (if Fork.london ≤ fork then
            environment.baseFee.toNat *
              (execute (Mainnet.rules fork) limits world environment signed).gasUsed
          else 0)
          (execute (Mainnet.rules fork) limits world environment signed)) ∧
    ∀ world submissions, world.supply < Word.modulus → AllCovered world submissions →
      (executeAll world submissions).supply ≤ world.supply := by
  constructor
  · intro fork limits world environment signed completed bounded covered
    have burns := burnt_mainnet fork environment
    generalize Mainnet.rules fork = rules at completed burns ⊢
    obtain ⟨accepted, charged, completion, completes⟩ := completes_of_isCompleted completed
    have conserves := conservesEther_of_completes completes bounded (completes.fee_lt covered)
    rw [burns] at conserves
    exact ⟨accepted, charged, completion, completes, conserves⟩
  · intro world submissions bounded covered
    exact supply_executeAll_le bounded covered

theorem ether_conserved_payment :
    (∃ accepted charged completion,
      Completes (Mainnet.rules .london) {} payerWorld {} payment accepted charged completion ∧
      ConservesEther (Mainnet.rules .london) payerWorld {} payment accepted charged completion
        (if Fork.london ≤ Fork.london then
          ({} : Environment).baseFee.toNat *
            (execute (Mainnet.rules .london) {} payerWorld {} payment).gasUsed
        else 0)
        (execute (Mainnet.rules .london) {} payerWorld {} payment)) ∧
    (executeAll payerWorld [⟨.london, {}, {}, payment⟩]).supply ≤ payerWorld.supply := by
  have bounded : payerWorld.supply < Word.modulus := by decide
  have covered : CoversCost payerWorld payment := by
    intro sender recovered
    rw [eq_of_payment_sender recovered]
    decide
  constructor
  · exact ether_conserved.1 .london {} payerWorld {} payment isCompleted_payment bounded covered
  · exact ether_conserved.2 payerWorld _ bounded ⟨fun _ => covered, trivial⟩

end StateTransition.Evm
