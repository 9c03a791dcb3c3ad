import StateTransition.Proofs.Execution.Conservation
import StateTransition.Proofs.Execution.Preparation
import StateTransition.Proofs.FrameStack.Isolation
import StateTransition.Proofs.Journal.Records

/-!
What a transaction costs that is executed and fails: the price of the gas it used and one nonce.
Everything its frames did is undone, so the world changes at the sender and the coinbase only.
-/

namespace StateTransition.Evm

open FrameStack

def chargeFee (sender : Address) (fee : Nat) (world : World) : World :=
  world.update sender fun account =>
    { account with
      nonce := account.nonce + 1
      balance := Word.ofNat (account.balance.toNat - fee) }

def payShare (cleanup : Bool) (coinbase : Address) (share : Nat) (world : World) : World :=
  let paid := world.update coinbase fun account =>
    { account with balance := Word.ofNat (account.balance.toNat + share) }
  if cleanup then Journal.eraseIfEmpty paid coinbase else paid

def coinbasePrice (fork : Fork) (environment : Environment) (gasPrice : Word) : Nat :=
  if Fork.london ≤ fork then gasPrice.toNat - environment.baseFee.toNat else gasPrice.toNat

/-- Executed, and not with success. -/
def ExecutionResult.Failed (result : ExecutionResult) : Prop :=
  result.aborted = false ∧
    (result.outcome = .revert ∨ result.outcome = .outOfGas ∨ result.outcome = .invalidOpcode)

/-- A result that leaves nothing of the transaction but its fee and its nonce, where the coinbase
gets `tip` for a unit of gas. The numbers are exact: the nonce has a successor, the sender holds
the fee, and the coinbase has room for its share. -/
structure CostsOnlyFee (cleanup : Bool) (coinbase : Address) (tip : Nat) (world : World)
    (tx : Transaction) (accepted : Accepted) (result : ExecutionResult) : Prop where
  refunded : result.gasRefunded = 0
  logs : result.logs = []
  contractAddress : result.contractAddress = none
  used : result.outcome ≠ .revert → result.gasUsed = tx.gasLimit.toNat
  post : result.post = payShare cleanup coinbase (tip * result.gasUsed)
    (chargeFee accepted.sender (accepted.gasPrice.toNat * result.gasUsed) world)
  nonce : (world.nonce accepted.sender + 1).toNat = (world.nonce accepted.sender).toNat + 1
  fee : accepted.gasPrice.toNat * result.gasUsed ≤ (world.balance accepted.sender).toNat
  share : ((chargeFee accepted.sender (accepted.gasPrice.toNat * result.gasUsed) world).balance
    coinbase).toNat + tip * result.gasUsed < Word.modulus

theorem toNat_minerPrice_mainnet (fork : Fork) {environment : Environment} {gasPrice : Word}
    (least : Fork.london ≤ fork → environment.baseFee.toNat ≤ gasPrice.toNat) :
    (minerPrice (Mainnet.rules fork) environment gasPrice).toNat =
      coinbasePrice fork environment gasPrice := by
  rw [minerPrice, coinbasePrice, Mainnet.isActive_baseFee]
  by_cases london : Fork.london ≤ fork
  · have enough := least london
    have covered : ¬ gasPrice < environment.baseFee := by
      rw [BitVec.lt_def]
      omega
    rw [if_pos (decide_eq_true london), if_pos london, if_neg covered]
    exact BitVec.toNat_sub_of_le (BitVec.le_def.mpr enough)
  · rw [if_neg (by simpa using london), if_neg london]

section

variable {rules : Rules} {limits : Limits} {world : World} {environment : Environment}
  {signed : SignedTransaction} {tx : Transaction} {accepted : Accepted} {charged : Journal}
  {completion : Completion}

theorem warms_base_ofTransaction (setting : Setting) (tx : Transaction) (sender : Address)
    (gas : Nat) (journal : Journal) :
    journal.Warms ((Attempt.ofTransaction tx sender gas).base setting journal) := by
  rw [Attempt.ofTransaction]
  split
  · exact .refl journal
  · exact Journal.warms_warmTarget journal _ setting.rules

theorem Completes.warms_of_failed
    (completes : Completes rules limits world environment signed accepted charged completion)
    (failed : completion.result.isSuccess = false) :
    (prepare rules environment signed.tx accepted charged).Warms completion.journal := by
  obtain ⟨remaining, ends⟩ := completes.ends
  obtain ⟨based, returns⟩ := ends.left_eq_base failed
  rw [based]
  exact warms_base_ofTransaction _ signed.tx _ _ _

theorem Completes.world_of_failed
    (completes : Completes rules limits world environment signed accepted charged completion)
    (failed : completion.result.isSuccess = false) :
    completion.journal.world = world.update accepted.sender fun account =>
      { account with
        nonce := Journal.nextNonce account.nonce
        balance := account.balance - accepted.gasPrice * Word.ofNat signed.tx.gasLimit.toNat } :=
  (completes.warms_of_failed failed).world.trans (world_prepare completes.charges)

theorem Completes.records_of_failed
    (completes : Completes rules limits world environment signed accepted charged completion)
    (failed : completion.result.isSuccess = false) :
    completion.journal.touched = ∅ ∧ completion.journal.destructed = ∅ ∧
      completion.journal.logs = #[] ∧ completion.journal.refund = 0 := by
  have records := sameRecords_charge completes.charges
  have left := (warms_prepare rules environment signed.tx accepted charged).trans
    (completes.warms_of_failed failed)
  exact ⟨left.touched.trans records.touched, left.destructed.trans records.destructed,
    left.logs.trans records.logs, left.refund.trans records.refund⟩

theorem finish_touch {journal : Journal} (coinbase : Address) (cleanup : Bool)
    (touched : journal.touched = ∅) (destructed : journal.destructed = ∅) :
    ((journal.touch coinbase).finish cleanup).1 =
      if cleanup then Journal.eraseIfEmpty journal.world coinbase else journal.world := by
  have only : (journal.touch coinbase).touched.keys = [coinbase] := by
    rw [Journal.touch, touched]
    rfl
  have none : (journal.touch coinbase).destructed = ∅ := by
    rw [(Journal.sameFunds_touch journal coinbase).destructed, destructed]
  simp only [Journal.finish, only, none, Journal.world_touch]
  rfl

theorem logs_settleFees (setting : Setting) (world : World) (tx : Transaction)
    (completion : Completion) :
    (settleFees setting world tx completion).logs = completion.journal.logs.toList := by
  have repaid := Journal.sameRecords_addBalance completion.journal setting.origin
    (repayment setting tx (.of setting.rules tx completion))
  have paid := Journal.sameRecords_addBalance (completion.journal.addBalance setting.origin
    (repayment setting tx (.of setting.rules tx completion))) setting.environment.coinbase
    (reward setting (.of setting.rules tx completion))
  have touched (journal : Journal) (address : Address) :
      (journal.touch address).logs = journal.logs := by
    obtain ⟨touched, changes, touches⟩ := Journal.exists_touch_eq journal address
    rw [touches]
  exact congrArg Array.toList
    ((touched _ setting.environment.coinbase).trans (paid.logs.trans repaid.logs))

theorem post_settleFees {setting : Setting} (touched : completion.journal.touched = ∅)
    (destructed : completion.journal.destructed = ∅)
    (rewards : (completion.journal.addBalance setting.origin
      (repayment setting tx (.of setting.rules tx completion))).Fits setting.environment.coinbase
      (reward setting (.of setting.rules tx completion))) :
    (settleFees setting world tx completion).post =
      payShare (setting.rules.isActive .emptyAccountCleanup) setting.environment.coinbase
        (reward setting (.of setting.rules tx completion)).toNat
        (completion.journal.addBalance setting.origin
          (repayment setting tx (.of setting.rules tx completion))).world := by
  have records := (Journal.sameRecords_addBalance completion.journal setting.origin
    (repayment setting tx (.of setting.rules tx completion))).trans
    (Journal.sameRecords_addBalance _ setting.environment.coinbase
      (reward setting (.of setting.rules tx completion)))
  have closed := finish_touch setting.environment.coinbase
    (setting.rules.isActive .emptyAccountCleanup) (records.touched.trans touched)
    (records.destructed.trans destructed)
  rw [Journal.world_addBalance rewards] at closed
  exact closed

theorem update_charged {sender : Address} {cost back : Word} {fee : Nat}
    (enough : cost.toNat ≤ (world.balance sender).toNat) (parts : fee + back.toNat = cost.toNat)
    (room : (world.nonce sender).toNat + 1 < UInt64.size) :
    ((world.update sender fun account =>
      { account with
        nonce := Journal.nextNonce account.nonce
        balance := account.balance - cost }).update sender fun account =>
      { account with balance := Word.ofNat (account.balance.toNat + back.toNat) }) =
    chargeFee sender fee world := by
  have nonce : Journal.nextNonce (world.account sender).nonce = (world.account sender).nonce + 1 :=
    if_pos room
  have charged : ((world.account sender).balance - cost).toNat =
      (world.account sender).balance.toNat - cost.toNat :=
    BitVec.toNat_sub_of_le (BitVec.le_def.mpr enough)
  have difference : ((world.account sender).balance - cost).toNat + back.toNat =
      (world.account sender).balance.toNat - fee := by
    have held : cost.toNat ≤ (world.account sender).balance.toNat := enough
    omega
  rw [World.update_update]
  apply World.update_congr
  simp only [nonce, difference]

theorem Completes.world_repaid_of_failed
    (completes : Completes rules limits world environment signed accepted charged completion)
    (failed : completion.result.isSuccess = false)
    (fee : accepted.gasPrice.toNat * signed.tx.gasLimit.toNat < Word.modulus)
    (repays : completion.journal.Fits accepted.sender
      (repayment (accepted.setting rules environment) signed.tx (.of rules signed.tx completion)))
    (room : (world.nonce accepted.sender).toNat + 1 < UInt64.size) :
    (completion.journal.addBalance accepted.sender (repayment (accepted.setting rules environment)
      signed.tx (.of rules signed.tx completion))).world =
      chargeFee accepted.sender
        (accepted.gasPrice.toNat * (GasBill.of rules signed.tx completion).used) world := by
  have within := GasBill.used_of_le rules signed.tx completion
  have parts : accepted.gasPrice.toNat * (GasBill.of rules signed.tx completion).used +
      (repayment (accepted.setting rules environment) signed.tx
        (.of rules signed.tx completion)).toNat =
      (accepted.gasPrice * Word.ofNat signed.tx.gasLimit.toNat).toNat := by
    rw [toNat_repayment fee, toNat_fee fee, ← Nat.mul_add, Nat.add_sub_cancel' within]
  rw [Journal.world_addBalance repays, completes.world_of_failed failed]
  exact update_charged (Journal.le_balance_of_payable (debit_of_charge completes.charges).1) parts room

theorem Completes.isSuccess_of_failed
    (completes : Completes rules limits world environment signed accepted charged completion)
    (failed : (execute rules limits world environment signed).Failed) :
    completion.result.isSuccess = false := by
  have outcome := failed.2
  have classified : (settleFees (accepted.setting rules environment) world signed.tx
      completion).outcome = (classify completion.result.status).1 := rfl
  rw [completes.settles, classified] at outcome
  rw [FrameResult.isSuccess]
  cases status : completion.result.status with
  | success =>
    rw [status] at outcome
    rcases outcome with revert | outOfGas | invalid <;> contradiction
  | revert => rfl
  | halt reason => rfl

theorem Completes.gasLeft_of_failed
    (completes : Completes rules limits world environment signed accepted charged completion)
    (failed : completion.result.isSuccess = false)
    (halted : (execute rules limits world environment signed).outcome ≠ .revert) :
    completion.result.gasLeft = 0 := by
  obtain ⟨remaining, ends⟩ := completes.ends
  have returns := (ends.left_eq_base failed).2
  have classified : (settleFees (accepted.setting rules environment) world signed.tx
      completion).outcome = (classify completion.result.status).1 := rfl
  rw [completes.settles, classified] at halted
  rw [FrameResult.Returns, FrameResult.isHalt] at returns
  rw [FrameResult.isSuccess] at failed
  cases status : completion.result.status with
  | success =>
    rw [status] at failed
    cases failed
  | revert =>
    rw [status] at halted
    exact absurd rfl halted
  | halt reason =>
    rw [status] at returns
    exact returns

theorem Completes.report_of_failed
    (completes : Completes rules limits world environment signed accepted charged completion)
    (failed : completion.result.isSuccess = false) :
    (execute rules limits world environment signed).gasUsed =
        signed.tx.gasLimit.toNat - completion.result.gasLeft ∧
      (execute rules limits world environment signed).gasRefunded = 0 ∧
      (execute rules limits world environment signed).logs = [] ∧
      (execute rules limits world environment signed).contractAddress = none := by
  obtain ⟨touched, destructed, logs, refund⟩ := completes.records_of_failed failed
  have nothing (spent : Nat) : refundFor rules completion.journal spent = 0 := by
    rw [refundFor, refund]
    exact Nat.zero_min _
  have bill : GasBill.of rules signed.tx completion =
      ⟨signed.tx.gasLimit.toNat - completion.result.gasLeft, 0⟩ := by
    simp only [GasBill.of, nothing, Nat.sub_zero]
  have emitted : (settleFees (accepted.setting rules environment) world signed.tx
      completion).logs = completion.journal.logs.toList := logs_settleFees _ _ _ _
  have deployed : (settleFees (accepted.setting rules environment) world signed.tx
      completion).contractAddress =
        if signed.tx.isCreate && completion.result.isSuccess then
          some (createAddress accepted.sender signed.tx.nonce)
        else none := rfl
  rw [completes.settles]
  refine ⟨congrArg GasBill.used bill, congrArg GasBill.refunded bill, ?_, ?_⟩
  · rw [emitted, logs]
  · rw [deployed, failed, Bool.and_false]
    rfl

theorem Completes.costsOnlyFee
    (completes : Completes rules limits world environment signed accepted charged completion)
    (bounded : world.supply < Word.modulus) (covered : CoversCost world signed)
    (room : (world.nonce accepted.sender).toNat + 1 < UInt64.size)
    (failed : (execute rules limits world environment signed).Failed) :
    CostsOnlyFee (rules.isActive .emptyAccountCleanup) environment.coinbase
      (minerPrice rules environment accepted.gasPrice).toNat world signed.tx accepted
      (execute rules limits world environment signed) := by
  have fee := completes.fee_lt covered
  have unsuccessful := completes.isSuccess_of_failed failed
  have halts := completes.gasLeft_of_failed unsuccessful
  -- no sum of balances is cut off, so the word arithmetic below is that of numbers
  have conserves := conservesEther_of_completes completes bounded fee
  have within := GasBill.used_of_le rules signed.tx completion
  have share := toNat_reward rules environment fee within
  have charged := completes.world_repaid_of_failed unsuccessful fee conserves.repays room
  obtain ⟨used, refunded, logs, contractAddress⟩ := completes.report_of_failed unsuccessful
  obtain ⟨touched, destructed, _, _⟩ := completes.records_of_failed unsuccessful
  have bill : (execute rules limits world environment signed).gasUsed =
      (GasBill.of rules signed.tx completion).used := congrArg _ completes.settles
  have post : (execute rules limits world environment signed).post = _ :=
    (congrArg _ completes.settles).trans
      (post_settleFees touched destructed conserves.rewards)
  have paid : accepted.gasPrice.toNat * (GasBill.of rules signed.tx completion).used ≤
      accepted.gasPrice.toNat * signed.tx.gasLimit.toNat := Nat.mul_le_mul_left _ within
  have held : accepted.gasPrice.toNat * signed.tx.gasLimit.toNat ≤
      (world.balance accepted.sender).toNat := by
    rw [← toNat_fee fee]
    exact (Journal.le_balance_of_payable (debit_of_charge completes.charges).1)
  constructor
  · exact refunded
  · exact logs
  · exact contractAddress
  · intro halted
    rw [used, halts halted, Nat.sub_zero]
  · rw [post, bill, ← charged, ← share]
    rfl
  · rw [UInt64.toNat_add]
    exact Nat.mod_eq_of_lt room
  · rw [bill]
    exact Nat.le_trans paid held
  · have rewards := conserves.rewards
    rw [Journal.Fits, share, Journal.balance, charged] at rewards
    rw [bill]
    exact rewards

end

theorem ExecutionResult.Failed.isCompleted {result : ExecutionResult} (failed : result.Failed) :
    result.isCompleted = true := by
  obtain ⟨executed, outcome⟩ := failed
  rw [ExecutionResult.isCompleted, executed]
  rcases outcome with revert | outOfGas | invalid
  · rw [revert]
    rfl
  · rw [outOfGas]
    rfl
  · rw [invalid]
    rfl

/-- At every fork of the main network a transaction that was executed and failed costs its sender
the price of the gas it used and one nonce. Whatever its frames wrote, emitted, scheduled or earned
as a refund is gone, however it failed and whoever sender, recipient and coinbase are. -/
theorem failure_costs_only_fee (fork : Fork) (limits : Limits) (world : World)
    (environment : Environment) (signed : SignedTransaction)
    (bounded : world.supply < Word.modulus) (covered : CoversCost world signed)
    (room : ∀ sender, signed.sender = .ok sender →
      (world.nonce sender).toNat + 1 < UInt64.size)
    (failed : (execute (Mainnet.rules fork) limits world environment signed).Failed) :
    ∃ accepted, Accepts (Mainnet.rules fork) world environment signed accepted ∧
      (Fork.london ≤ fork → environment.baseFee.toNat ≤ accepted.gasPrice.toNat) ∧
      CostsOnlyFee ((Mainnet.rules fork).isActive .emptyAccountCleanup) environment.coinbase
        (coinbasePrice fork environment accepted.gasPrice) world signed.tx accepted
        (execute (Mainnet.rules fork) limits world environment signed) := by
  obtain ⟨accepted, charged, completion, completes⟩ := completes_of_isCompleted failed.isCompleted
  have next := room accepted.sender completes.accepts.sender
  have least : Fork.london ≤ fork → environment.baseFee.toNat ≤ accepted.gasPrice.toNat := by
    intro london
    apply completes.accepts.gasPrice_bounds.1
    rw [Mainnet.isActive_baseFee]
    exact decide_eq_true london
  have costs := completes.costsOnlyFee bounded covered next failed
  rw [toNat_minerPrice_mainnet fork least] at costs
  exact ⟨accepted, completes.accepts, least, costs⟩

/-- The payment goes to a contract whose code stores a word first and then halts. -/
def brokenPayeeWorld : World :=
  payerWorld.insert ⟨0x2000#160⟩ { balance := 1#256, code := [0x60, 0x01, 0x60, 0x00, 0x55, 0xfe] }

theorem failure_costs_only_fee_payment :
    (execute (Mainnet.rules .london) {} brokenPayeeWorld {} payment).Failed ∧
    ∃ accepted, Accepts (Mainnet.rules .london) brokenPayeeWorld {} payment accepted ∧
      (Fork.london ≤ Fork.london →
        ({} : Environment).baseFee.toNat ≤ accepted.gasPrice.toNat) ∧
      CostsOnlyFee ((Mainnet.rules .london).isActive .emptyAccountCleanup)
        ({} : Environment).coinbase (coinbasePrice .london {} accepted.gasPrice) brokenPayeeWorld
        payment.tx accepted (execute (Mainnet.rules .london) {} brokenPayeeWorld {} payment) := by
  have failed : (execute (Mainnet.rules .london) {} brokenPayeeWorld {} payment).Failed := by
    have reported : ((execute (Mainnet.rules .london) {} brokenPayeeWorld {} payment).outcome,
        (execute (Mainnet.rules .london) {} brokenPayeeWorld {} payment).aborted) =
        (.outOfGas, false) := by
      rw [Mainnet.rules_eq_readOff, execute, validate, sender_payment]
      decide
    obtain ⟨outcome, executed⟩ := Prod.mk.inj reported
    exact ⟨executed, .inr (.inl outcome)⟩
  refine ⟨failed, failure_costs_only_fee .london {} brokenPayeeWorld {} payment ?_ ?_ ?_ failed⟩
  · decide
  · intro sender recovered
    rw [eq_of_payment_sender recovered]
    decide
  · intro sender recovered
    rw [eq_of_payment_sender recovered]
    decide

end StateTransition.Evm
