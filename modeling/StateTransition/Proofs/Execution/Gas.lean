import StateTransition.Proofs.Execution.Outcome
import StateTransition.Proofs.Fork.Mainnet
import StateTransition.Proofs.FrameStack.Budget

namespace StateTransition.Evm

open FrameStack

/-- The gas of an attempt and of everything below it comes out of what the attempt was given. -/
structure KeepsGas (setting : Setting) (attempt : Attempt) (journal : Journal) : Prop where
  held : ∀ stack openings, Underway setting attempt journal stack openings →
    stack.gas ≤ attempt.gas
  outcome : ∀ steps completion, runEntry setting steps (attempt.enter setting journal).1
    (attempt.enter setting journal).2 = some (.finished completion) →
      completion.result.gasLeft ≤ attempt.gas
  handed : ∀ stack openings action after asked,
    Underway setting attempt journal stack openings →
      stack.machine.step setting = (some action, after) → action.attempt? = some asked →
      after.frame.gas + asked.gas ≤ attempt.gas
  child : ∀ opened remaining result left next,
    Ends setting attempt journal opened remaining result left next →
      result.gasLeft ≤ opened.attempt.gas
  caller : ∀ opened remaining result left next caller,
    Ends setting attempt journal opened remaining result left next →
      opened.caller = some caller →
      (∃ resumed parents ticks, next = .running ⟨resumed, parents, left, ticks⟩ ∧
        resumed.frame.gas = caller.frame.gas + result.gasLeft) ∧
      caller.frame.gas + result.gasLeft ≤ attempt.gas

theorem keepsGas_of_coversStipend {setting : Setting} (covers : setting.rules.CoversStipend)
    (attempt : Attempt) (journal : Journal) : KeepsGas setting attempt journal where
  held stack openings underway := underway.gas_le covers
  outcome steps completion finishes := by
    obtain ⟨remaining, ends⟩ := ends_of_runEntry finishes
    exact ends.gasLeft_le covers
  handed stack openings action after asked underway step asks := by
    calc after.frame.gas + asked.gas
      _ ≤ stack.current.frame.gas := paid_of_step covers step asks
      _ ≤ stack.gas := Nat.le_add_right _ _
      _ ≤ attempt.gas := underway.gas_le covers
  child opened remaining result left next ends := ends.gasLeft_le covers
  caller opened remaining result left next caller ends waits := by
    have handed := ends.handsOver
    have within := ends.caller_gas_le covers waits
    have back := ends.gasLeft_le covers
    rw [waits] at handed
    constructor
    · cases handed with
      | back parents ticks resumes => exact ⟨_, parents, ticks, rfl, resumes.gas⟩
    · omega

/-- How the gas of a transaction is accounted for. The parts add up, so no difference of them falls
below zero. -/
structure SettlesGas (rules : Rules) (tx : Transaction) (intrinsic : Nat) (gasLeft : Nat)
    (result : ExecutionResult) : Prop where
  parts : result.gasUsed + result.gasRefunded + gasLeft = tx.gasLimit.toNat
  intrinsic_le : intrinsic ≤ result.gasUsed + result.gasRefunded
  le_limit : result.gasUsed + result.gasRefunded ≤ tx.gasLimit.toNat
  refunded_le : result.gasRefunded ≤
    (result.gasUsed + result.gasRefunded) / rules.amount .maxRefundQuotient
  limit_lt : tx.gasLimit.toNat < UInt64.size

theorem settlesGas_of_gasLeft_le {setting : Setting} {world : World} {tx : Transaction}
    {completion : Completion} {intrinsic : Nat}
    (quotient : 0 < setting.rules.amount .maxRefundQuotient)
    (enough : intrinsic ≤ tx.gasLimit.toNat)
    (left : completion.result.gasLeft ≤ tx.gasLimit.toNat - intrinsic) :
    SettlesGas setting.rules tx intrinsic completion.result.gasLeft
      (settleFees setting world tx completion) := by
  let spent := tx.gasLimit.toNat - completion.result.gasLeft
  let refunded := refundFor setting.rules completion.journal spent
  have capped : refunded ≤ spent / setting.rules.amount .maxRefundQuotient := by
    have divisor : max (setting.rules.amount .maxRefundQuotient) 1 =
        setting.rules.amount .maxRefundQuotient := Nat.max_eq_left quotient
    have least : refunded ≤ spent / max (setting.rules.amount .maxRefundQuotient) 1 :=
      Nat.min_le_right _ _
    rwa [divisor] at least
  have within : refunded ≤ spent := Nat.le_trans capped (Nat.div_le_self _ _)
  have used : (settleFees setting world tx completion).gasUsed = spent - refunded := rfl
  have back : (settleFees setting world tx completion).gasRefunded = refunded := rfl
  have sum : (settleFees setting world tx completion).gasUsed +
      (settleFees setting world tx completion).gasRefunded = spent := by
    rw [used, back]
    exact Nat.sub_add_cancel within
  constructor
  · rw [sum]
    exact Nat.sub_add_cancel (Nat.le_trans left (Nat.sub_le _ _))
  · rw [sum]
    omega
  · rw [sum]
    exact Nat.sub_le _ _
  · rw [sum, back]
    exact capped
  · exact tx.gasLimit.toNat_lt

theorem settlesGas_of_isCompleted {rules : Rules} {limits : Limits} {world : World}
    {environment : Environment} {signed : SignedTransaction} (covers : rules.CoversStipend)
    (quotient : 0 < rules.amount .maxRefundQuotient)
    (completed : (execute rules limits world environment signed).isCompleted = true) :
    ∃ accepted charged completion,
      Completes rules limits world environment signed accepted charged completion ∧
      SettlesGas rules signed.tx (signed.tx.intrinsicGas rules) completion.result.gasLeft
        (execute rules limits world environment signed) := by
  obtain ⟨accepted, charged, completion, completes⟩ := completes_of_isCompleted completed
  obtain ⟨remaining, ends⟩ := completes.ends
  have back := ends.gasLeft_le covers
  rw [Attempt.gas_ofTransaction] at back
  have settles : SettlesGas rules signed.tx accepted.intrinsic completion.result.gasLeft
      (settleFees (accepted.setting rules environment) world signed.tx completion) :=
    @settlesGas_of_gasLeft_le (accepted.setting rules environment) world signed.tx completion
      accepted.intrinsic quotient completes.accepts.intrinsic_le back
  rw [← completes.settles, completes.accepts.intrinsic] at settles
  exact ⟨accepted, charged, completion, completes, settles⟩

/-- At every fork of the main network the frames of a run never hold more gas together than the
outermost one was given, whatever they do, and a completed transaction pays for at least its
intrinsic gas and at most its limit, with the refund within the fork's share of what was spent. -/
theorem gas_never_created (fork : Fork) (environment : Environment) :
    (∀ accepted attempt journal,
      KeepsGas (Accepted.setting accepted (Mainnet.rules fork) environment) attempt journal) ∧
    ∀ limits world signed,
      (execute (Mainnet.rules fork) limits world environment signed).isCompleted = true →
      ∃ accepted charged completion,
        Completes (Mainnet.rules fork) limits world environment signed accepted charged completion ∧
        SettlesGas (Mainnet.rules fork) signed.tx (signed.tx.intrinsicGas (Mainnet.rules fork))
          completion.result.gasLeft
          (execute (Mainnet.rules fork) limits world environment signed) := by
  have covers : (Mainnet.rules fork).CoversStipend := Mainnet.callStipend_le_callValueTransfer fork
  have quotient := Mainnet.maxRefundQuotient_pos fork
  generalize Mainnet.rules fork = rules at covers quotient ⊢
  constructor
  · intro accepted attempt journal
    exact keepsGas_of_coversStipend covers attempt journal
  · intro limits world signed completed
    exact settlesGas_of_isCompleted covers quotient completed

def payment : SignedTransaction where
  tx :=
    { nonce := 0
      gasLimit := 21000
      recipient := some ⟨0x2000#160⟩
      value := 5#256
      data := []
      kind := .legacy 10#256 none }
  v := 28
  r := ⟨0x23aee4ba58d1afb717adee74165f03686ea79035f670bf233cd4c60709b720af#256⟩
  s := ⟨0x1ec4ba1b0eb89a9890fd445a9f3951d686639c718e98a47ecdbce1d24b75ced9#256⟩

theorem sender_payment :
    payment.sender = .ok ⟨0x7e5f4552091a69125d5dfcb7b8c2659029395bdf#160⟩ := by
  apply eq_ok_of_toOption
  decide +kernel

theorem eq_of_payment_sender {sender : Address} (recovered : payment.sender = .ok sender) :
    sender = ⟨0x7e5f4552091a69125d5dfcb7b8c2659029395bdf#160⟩ :=
  Except.ok.inj (recovered.symm.trans sender_payment)

def payerWorld : World :=
  .ofList [(⟨0x7e5f4552091a69125d5dfcb7b8c2659029395bdf#160⟩, { balance := 210008#256 })]

theorem isCompleted_payment :
    (execute (Mainnet.rules .london) {} payerWorld {} payment).isCompleted = true := by
  rw [Mainnet.rules_eq_readOff, execute, validate, sender_payment]
  decide

theorem gas_never_created_payment :
    ∃ accepted charged completion,
      Completes (Mainnet.rules .london) {} payerWorld {} payment accepted charged completion ∧
      SettlesGas (Mainnet.rules .london) payment.tx
        (payment.tx.intrinsicGas (Mainnet.rules .london)) completion.result.gasLeft
        (execute (Mainnet.rules .london) {} payerWorld {} payment) :=
  (gas_never_created .london {}).2 {} payerWorld payment isCompleted_payment

end StateTransition.Evm
