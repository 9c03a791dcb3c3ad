import StateTransition.Proofs.Execution.Fees
import StateTransition.Proofs.Execution.Funds
import StateTransition.Proofs.Execution.Preparation
import StateTransition.Proofs.Execution.StepLimit
import StateTransition.Proofs.FrameStack.Verdicts

/-!
How outcome, error and the mark of an abandoned execution go together. Each execution is rejected,
stopped by one of the engine's limits, or carried through; and one that is carried through and reverts
does so because its outermost frame executed a revert instruction. For that the checks beforehand have
to imply that the charge, the value of a call and the endowment of a creation can be paid.
-/

namespace StateTransition.Evm

open FrameStack

variable {rules : Rules} {limits : Limits} {world : World} {environment : Environment}
  {tx : Transaction} {signed : SignedTransaction} {accepted : Accepted} {charged : Journal}

/-- The highest fee and the value, added as numbers, fit in a word. -/
def CostFits (tx : Transaction) : Prop :=
  tx.maxFee.toNat * tx.gasLimit.toNat + tx.value.toNat < Word.modulus

namespace Accepts

theorem cost_le (accepts : Accepts rules world environment signed accepted)
    (fits : CostFits signed.tx) :
    accepted.gasPrice.toNat * signed.tx.gasLimit.toNat + signed.tx.value.toNat ≤
      (world.balance accepted.sender).toNat := by
  have paid : cost signed.tx ≤ (world.balance accepted.sender).toNat := by
    rcases accepts.covered with paid | full
    · exact paid
    · rw [full]
      exact Nat.le_sub_one_of_lt fits
  have price := Nat.mul_le_mul_right signed.tx.gasLimit.toNat accepts.gasPrice_bounds.2
  rw [cost] at paid
  omega

theorem toNat_charge (accepts : Accepts rules world environment signed accepted)
    (fits : CostFits signed.tx) :
    (accepted.gasPrice * Word.ofNat signed.tx.gasLimit.toNat).toNat =
      accepted.gasPrice.toNat * signed.tx.gasLimit.toNat := by
  apply toNat_fee
  have cost := accepts.cost_le fits
  have held := (world.balance accepted.sender).isLt
  rw [Word.modulus]
  omega

theorem exists_charge (accepts : Accepts rules world environment signed accepted)
    (fits : CostFits signed.tx) : ∃ charged, charge world signed.tx accepted = .ok charged := by
  have cost := accepts.cost_le fits
  have priced : accepted.gasPrice.toNat * signed.tx.gasLimit.toNat < Word.modulus := by
    have held := (world.balance accepted.sender).isLt
    rw [Word.modulus]
    omega
  have payable : ¬ (Journal.start world).cannotPay accepted.sender
      (accepted.gasPrice * Word.ofNat signed.tx.gasLimit.toNat) = true := by
    intro short
    have less := BitVec.lt_def.mp (of_decide_eq_true short)
    rw [accepts.toNat_charge fits] at less
    have held : ((Journal.start world).balance accepted.sender).toNat =
        (world.balance accepted.sender).toNat := rfl
    omega
  refine ⟨(Journal.start world).debit accepted.sender
    (accepted.gasPrice * Word.ofNat signed.tx.gasLimit.toNat), ?_⟩
  rw [charge, if_pos priced, Journal.subBalance, if_neg payable]
  rfl

theorem value_le_prepare (accepts : Accepts rules world environment signed accepted)
    (fits : CostFits signed.tx) (charges : charge world signed.tx accepted = .ok charged) :
    signed.tx.value.toNat ≤
      ((prepare rules environment signed.tx accepted charged).balance accepted.sender).toNat := by
  have cost := accepts.cost_le fits
  have left : (prepare rules environment signed.tx accepted charged).balance accepted.sender =
      world.balance accepted.sender -
        accepted.gasPrice * Word.ofNat signed.tx.gasLimit.toNat := by
    rw [Journal.balance, World.balance, World.account]
    rw [← Journal.account?, account?_prepare_sender charges]
    rfl
  have charge := accepts.toNat_charge fits
  have difference := BitVec.toNat_sub_of_le (x := world.balance accepted.sender)
    (y := accepted.gasPrice * Word.ofNat signed.tx.gasLimit.toNat)
    (BitVec.le_def.mpr (by omega))
  rw [left, difference, charge]
  omega

/-- The call or creation of the transaction is not turned down: it is not too deep and its value can
be paid, also where the account it goes to is created first. -/
theorem not_refused (accepts : Accepts rules world environment signed accepted)
    (fits : CostFits signed.tx) (charges : charge world signed.tx accepted = .ok charged) (gas : Nat) :
    ¬ (Attempt.ofTransaction signed.tx accepted.sender gas).Refused
      (accepted.setting rules environment)
      (prepare rules environment signed.tx accepted charged) := by
  have covered := accepts.value_le_prepare fits charges
  have payable (journal : Journal)
      (same : journal.balance accepted.sender =
        (prepare rules environment signed.tx accepted charged).balance accepted.sender) :
      journal.cannotPay accepted.sender signed.tx.value = false := by
    rw [Journal.cannotPay, same]
    exact decide_eq_false fun less => absurd (BitVec.lt_def.mp less) (Nat.not_lt.mpr covered)
  intro refused
  rw [Attempt.ofTransaction] at refused
  split at refused
  · rename_i recipient aimed
    simp only [Attempt.Refused, refusesCall, depthExceeded, Bool.true_and,
      payable _ rfl] at refused
    simp at refused
  · rename_i none
    have funds := (Journal.SameFunds.of_warms (Journal.warms_warmTarget
      (prepare rules environment signed.tx accepted charged)
      (createAddress accepted.sender signed.tx.nonce) rules)).trans
      (Journal.sameFunds_createAccount _ (createAddress accepted.sender signed.tx.nonce)
        (freshNonce rules))
    have affordable := payable _ (funds.balance accepted.sender)
    exact Bool.false_ne_true (affordable.symm.trans refused)

end Accepts

/-- Without a step limit the execution begins more instructions than the engine allows. -/
def ExceedsSteps (rules : Rules) (limits : Limits) (world : World) (environment : Environment)
    (signed : SignedTransaction) : Prop :=
  ∃ limit result ticks, limits.maxSteps = some limit ∧
    Finishes rules limits.gasCeiling world environment signed result ticks ∧ limit.toNat < ticks

inductive Verdict (rules : Rules) (limits : Limits) (world : World) (environment : Environment)
    (signed : SignedTransaction) : ExecutionResult → Prop where
  | rejects {reason : Rejection}
      (refuses : validate rules world environment signed = .error reason) :
      Verdict rules limits world environment signed (.rejected world reason)
  | aboveCeiling {accepted : Accepted} {ceiling : UInt64}
      (validated : validate rules world environment signed = .ok accepted)
      (limited : limits.gasCeiling = some ceiling) (above : ceiling < signed.tx.gasLimit) :
      Verdict rules limits world environment signed
        (.abandoned world (.abandoned (.gasCeilingExceeded signed.tx.gasLimit ceiling)))
  | aboveSteps {accepted : Accepted} {limit : UInt64}
      (validated : validate rules world environment signed = .ok accepted)
      (limited : limits.maxSteps = some limit)
      (above : ExceedsSteps rules limits world environment signed) :
      Verdict rules limits world environment signed
        (.abandoned world (.abandoned (.stepLimitExceeded limit)))
  | overflows (overflows : RefundOverflows rules limits world environment signed) :
      Verdict rules limits world environment signed (.overflowed world)
  | completes {accepted : Accepted} {charged : Journal} {completion : Completion}
      (validated : validate rules world environment signed = .ok accepted)
      (completes : Completes rules limits world environment signed accepted charged completion) :
      Verdict rules limits world environment signed
        (settleFees (accepted.setting rules environment) world signed.tx completion)

theorem verdict_execute (metered : rules.Metered) (limits : Limits) (world : World)
    (environment : Environment) (fits : CostFits signed.tx) :
    Verdict rules limits world environment signed
      (execute rules limits world environment signed) := by
  obtain ⟨ticks, few, finishes⟩ :=
    exists_finishes metered limits.gasCeiling world environment signed
  generalize execute rules ⟨none, limits.gasCeiling⟩ world environment signed = result at finishes
  by_cases enough : ticks ≤ limits.steps
  · have same := finishes.execute_of_le enough
    rw [same]
    cases finishes with
    | rejected refuses => exact .rejects refuses
    | aboveCeiling validated limited above => exact .aboveCeiling validated limited above
    | unpriced validated below lacks | unpaid validated below lacks =>
      obtain ⟨charged, charges⟩ := (accepts_of_validate validated).exists_charge fits
      rw [charges] at lacks
      cases lacks
    | @ran accepted charged ending steps validated below charges runs =>
      have ends : runTransaction rules limits environment signed.tx accepted charged =
          some ending := (runEntry_of_runEntry runs limits.steps).trans (if_pos enough)
      cases ending with
      | overflowed ticks =>
        have under : ¬ ExceedsCeiling limits signed := by
          rintro ⟨ceiling, limited, above⟩
          exact UInt64.not_lt.mpr (below ceiling limited) above
        exact .overflows ⟨accepted, charged, ticks, validated, under, charges, ends⟩
      | finished completion =>
        exact .completes validated ⟨accepts_of_validate validated, charges, ends, same⟩
  · have short := Nat.lt_of_not_le enough
    rw [finishes.execute_of_lt short]
    cases limited : limits.maxSteps with
    | none =>
      rw [Limits.steps, limited, Option.elim_none] at short
      exact absurd few (Nat.not_le.mpr short)
    | some limit =>
      have less : limit.toNat < ticks := by
        rw [Limits.steps, limited, Option.elim_some] at short
        exact short
      have above : ExceedsSteps rules limits world environment signed :=
        ⟨limit, result, ticks, limited, finishes, less⟩
      cases finishes with
      | rejected | aboveCeiling | unpriced | unpaid => exact absurd less (Nat.not_lt_zero _)
      | ran validated below charges runs => exact .aboveSteps validated limited above

/-- The outermost frame of a completed transaction is alone on the stack and stands at a revert
instruction, and that is how the transaction ends. -/
def RevertsOutermost (rules : Rules) (limits : Limits) (world : World) (environment : Environment)
    (signed : SignedTransaction) : Prop :=
  ∃ accepted charged completion stack,
    Completes rules limits world environment signed accepted charged completion ∧
    stack.parents = [] ∧
    RevertsAt (accepted.setting rules environment)
      (.ofTransaction signed.tx accepted.sender (signed.tx.gasLimit.toNat - accepted.intrinsic))
      (prepare rules environment signed.tx accepted charged)
      [⟨.ofTransaction signed.tx accepted.sender
        (signed.tx.gasLimit.toNat - accepted.intrinsic),
        prepare rules environment signed.tx accepted charged, none⟩]
      stack completion.result

/-- Outcome, error and the mark of an abandoned execution, and what each of them means. -/
structure Classified (rules : Rules) (limits : Limits) (world : World) (environment : Environment)
    (signed : SignedTransaction) (result : ExecutionResult) : Prop where
  fatal : result.outcome = .fatal ↔
    ∃ reason, validate rules world environment signed = .error reason
  rejected : ∀ reason, validate rules world environment signed = .error reason →
    result.error = some (.rejected reason)
  aborted : result.aborted = true ↔
    (∃ accepted, validate rules world environment signed = .ok accepted) ∧
      (ExceedsCeiling limits signed ∨ ExceedsSteps rules limits world environment signed)
  abandoned : result.aborted = true →
    (∃ ceiling, limits.gasCeiling = some ceiling ∧
      result.error = some (.abandoned (.gasCeilingExceeded signed.tx.gasLimit ceiling))) ∨
    ∃ limit, limits.maxSteps = some limit ∧
      result.error = some (.abandoned (.stepLimitExceeded limit))
  none : result.isCompleted = true →
    (result.error = none ↔ result.outcome = .success ∨ result.outcome = .revert)
  outOfGas : result.isCompleted = true →
    (result.error = some (.halted .outOfGas) ↔ result.outcome = .outOfGas)
  halted : result.isCompleted = true → result.outcome = .invalidOpcode →
    ∃ reason, result.error = some (.halted reason) ∧ reason ≠ .outOfGas ∧ reason ≠ .memoryFault
  reverted : result.outcome = .revert → RevertsOutermost rules limits world environment signed

theorem classify_spec {status : FrameStatus} (faultless : status ≠ .halt .memoryFault) :
    (classify status).1 ≠ .fatal ∧
      ((classify status).2 = none ↔
        (classify status).1 = .success ∨ (classify status).1 = .revert) ∧
      ((classify status).2 = some (.halted .outOfGas) ↔ (classify status).1 = .outOfGas) ∧
      ((classify status).1 = .invalidOpcode → ∃ reason,
        (classify status).2 = some (.halted reason) ∧ reason ≠ .outOfGas ∧
          reason ≠ .memoryFault) ∧
      ((classify status).1 = .revert → status = .revert) := by
  cases status with
  | success | revert => simp [classify]
  | halt reason =>
    cases reason with
    | memoryFault => exact absurd rfl faultless
    | _ => simp [classify]

namespace Completes

variable {completion : Completion}

theorem status_ne_memoryFault
    (completes : Completes rules limits world environment signed accepted charged completion) :
    completion.result.status ≠ .halt .memoryFault := by
  obtain ⟨remaining, ends⟩ := completes.ends
  exact ends.status_ne_memoryFault

theorem revertsOutermost
    (completes : Completes rules limits world environment signed accepted charged completion)
    (fits : CostFits signed.tx) (reverts : completion.result.status = .revert) :
    RevertsOutermost rules limits world environment signed := by
  obtain ⟨remaining, ends⟩ := completes.ends
  rcases ends.revert_cases reverts with refused | ⟨stack, openings, stands⟩
  · exact absurd refused (completes.accepts.not_refused fits completes.charges _)
  · have nested := stands.underway.nested
    have alone := nested.alone rfl
    subst alone
    exact ⟨accepted, charged, completion, stack, completes, nested.parents_eq_nil, stands⟩

end Completes

theorem aborted_of_exceedsCeiling
    (validated : validate rules world environment signed = .ok accepted)
    (exceeds : ExceedsCeiling limits signed) :
    (execute rules limits world environment signed).aborted = true := by
  obtain ⟨ceiling, limited, above⟩ := exceeds
  rw [execute_of_above validated limited above]
  rfl

theorem aborted_of_exceedsSteps
    (exceeds : ExceedsSteps rules limits world environment signed) :
    (execute rules limits world environment signed).aborted = true := by
  obtain ⟨limit, result, ticks, limited, finishes, less⟩ := exceeds
  have short : limits.steps < ticks := by
    rw [Limits.steps, limited, Option.elim_some]
    exact less
  rw [finishes.execute_of_lt short]
  rfl

namespace Classified

theorem of_rejected {reason : Rejection}
    (refuses : validate rules world environment signed = .error reason) :
    Classified rules limits world environment signed (.rejected world reason) where
  fatal := ⟨fun _ => ⟨reason, refuses⟩, fun _ => rfl⟩
  rejected other again := by
    rw [refuses] at again
    cases again
    rfl
  aborted := by
    constructor
    · intro aborted
      cases aborted
    · rintro ⟨⟨accepted, validated⟩, exceeds⟩
      rw [refuses] at validated
      cases validated
  abandoned aborted := by cases aborted
  none completed := by cases completed
  outOfGas completed := by cases completed
  halted completed := by cases completed
  reverted reverts := by cases reverts

theorem of_abandoned {error : ExecutionError}
    (validated : validate rules world environment signed = .ok accepted)
    (exceeds : ExceedsCeiling limits signed ∨
      ExceedsSteps rules limits world environment signed)
    (reports : (∃ ceiling, limits.gasCeiling = some ceiling ∧
        error = .abandoned (.gasCeilingExceeded signed.tx.gasLimit ceiling)) ∨
      ∃ limit, limits.maxSteps = some limit ∧
        error = .abandoned (.stepLimitExceeded limit)) :
    Classified rules limits world environment signed (.abandoned world error) where
  fatal := by
    constructor
    · intro fatal
      cases fatal
    · rintro ⟨reason, refuses⟩
      rw [validated] at refuses
      cases refuses
  rejected reason refuses := by
    rw [validated] at refuses
    cases refuses
  aborted := ⟨fun _ => ⟨⟨accepted, validated⟩, exceeds⟩, fun _ => rfl⟩
  abandoned _ := by
    rcases reports with ⟨ceiling, limited, same⟩ | ⟨limit, limited, same⟩
    · exact .inl ⟨ceiling, limited, congrArg some same⟩
    · exact .inr ⟨limit, limited, congrArg some same⟩
  none completed := by cases completed
  outOfGas completed := by cases completed
  halted completed := by cases completed
  reverted reverts := by cases reverts

theorem of_overflows (overflows : RefundOverflows rules limits world environment signed) :
    Classified rules limits world environment signed (.overflowed world) := by
  have same := execute_of_refundOverflows overflows
  obtain ⟨accepted, charged, ticks, validated, _⟩ := overflows
  constructor
  · constructor
    · intro fatal
      cases fatal
    · rintro ⟨reason, refuses⟩
      rw [validated] at refuses
      cases refuses
  · intro reason refuses
    rw [validated] at refuses
    cases refuses
  · constructor
    · intro aborted
      cases aborted
    · rintro ⟨_, exceeds⟩
      rw [← same]
      rcases exceeds with ceiling | steps
      · exact aborted_of_exceedsCeiling validated ceiling
      · exact aborted_of_exceedsSteps steps
  · intro aborted
    cases aborted
  · intro completed
    cases completed
  · intro completed
    cases completed
  · intro completed
    cases completed
  · intro reverts
    cases reverts

theorem of_completes {completion : Completion} (fits : CostFits signed.tx)
    (validated : validate rules world environment signed = .ok accepted)
    (completes : Completes rules limits world environment signed accepted charged completion) :
    Classified rules limits world environment signed
      (settleFees (accepted.setting rules environment) world signed.tx completion) := by
  obtain ⟨fatal, none, outOfGas, halted, reverted⟩ := classify_spec completes.status_ne_memoryFault
  constructor
  · constructor
    · intro ends
      exact absurd ends fatal
    · rintro ⟨reason, refuses⟩
      rw [validated] at refuses
      cases refuses
  · intro reason refuses
    rw [validated] at refuses
    cases refuses
  · constructor
    · intro aborted
      cases aborted
    · rintro ⟨_, exceeds⟩
      rw [← completes.settles]
      rcases exceeds with ceiling | steps
      · exact aborted_of_exceedsCeiling validated ceiling
      · exact aborted_of_exceedsSteps steps
  · intro aborted
    cases aborted
  · exact fun _ => none
  · exact fun _ => outOfGas
  · exact fun _ => halted
  · intro ends
    exact completes.revertsOutermost fits (reverted ends)

end Classified

theorem Verdict.classified {result : ExecutionResult} (fits : CostFits signed.tx)
    (verdict : Verdict rules limits world environment signed result) :
    Classified rules limits world environment signed result := by
  cases verdict with
  | rejects refuses => exact .of_rejected refuses
  | aboveCeiling validated limited above =>
    exact .of_abandoned validated (.inl ⟨_, limited, above⟩) (.inl ⟨_, limited, rfl⟩)
  | aboveSteps validated limited above =>
    exact .of_abandoned validated (.inr above) (.inr ⟨_, limited, rfl⟩)
  | overflows overflows => exact .of_overflows overflows
  | completes validated completes => exact .of_completes fits validated completes

theorem Verdict.overflows_of_outcome {result : ExecutionResult}
    (verdict : Verdict rules limits world environment signed result)
    (stops : result.outcome = .overflow) :
    RefundOverflows rules limits world environment signed := by
  cases verdict with
  | overflows overflows => exact overflows
  | rejects | aboveCeiling | aboveSteps => cases stops
  | completes validated completes => exact absurd stops (outcome_settleFees_ne_overflow _ _ _ _)

/-- At every fork of the main network: an execution is fatal exactly when the checks reject the
transaction, aborted exactly when they do not and a limit of the engine is exceeded, and otherwise
its error says how the outermost frame ended. Once the checks have passed the charge up front can be
paid and the call or creation is not turned down. An execution has no outcome, and so stops, exactly
when the refund counter leaves its range. -/
theorem outcomes_classified (fork : Fork) (limits : Limits) (world : World)
    (environment : Environment) (signed : SignedTransaction)
    (fits : signed.tx.maxFee.toNat * signed.tx.gasLimit.toNat + signed.tx.value.toNat <
      Word.modulus) :
    Classified (Mainnet.rules fork) limits world environment signed
      (execute (Mainnet.rules fork) limits world environment signed) ∧
    (∀ accepted, validate (Mainnet.rules fork) world environment signed = .ok accepted →
      ∃ charged, charge world signed.tx accepted = .ok charged ∧
        ¬ (Attempt.ofTransaction signed.tx accepted.sender
          (signed.tx.gasLimit.toNat - accepted.intrinsic)).Refused
          (accepted.setting (Mainnet.rules fork) environment)
          (prepare (Mainnet.rules fork) environment signed.tx accepted charged)) ∧
    ((execute (Mainnet.rules fork) limits world environment signed).outcome = .overflow ↔
      RefundOverflows (Mainnet.rules fork) limits world environment signed) := by
  have metered := Mainnet.metered fork
  generalize Mainnet.rules fork = rules at metered ⊢
  have verdict := verdict_execute metered limits world environment fits
  refine ⟨verdict.classified fits, ?_, verdict.overflows_of_outcome, ?_⟩
  · intro accepted validated
    have accepts := accepts_of_validate validated
    obtain ⟨charged, charges⟩ := accepts.exists_charge fits
    exact ⟨charged, charges, accepts.not_refused fits charges _⟩
  · intro overflows
    rw [execute_of_refundOverflows overflows]
    rfl

def revertingWorld : World :=
  .ofList
    [(⟨0x2000#160⟩, { code := [0x60, 0x00, 0x60, 0x00, 0xfd] }),
     (⟨0x7e5f4552091a69125d5dfcb7b8c2659029395bdf#160⟩, { balance := 1000000#256 })]

theorem outcomes_classified_reverting :
    generousCall.tx.maxFee.toNat * generousCall.tx.gasLimit.toNat +
      generousCall.tx.value.toNat < Word.modulus ∧
    (execute (Mainnet.rules .london) {} revertingWorld {} generousCall).outcome = .revert ∧
    RevertsOutermost (Mainnet.rules .london) {} revertingWorld {} generousCall ∧
    (execute (Mainnet.rules .london) ⟨some 2, none⟩ revertingWorld {} generousCall).aborted =
      true ∧
    ExceedsSteps (Mainnet.rules .london) ⟨some 2, none⟩ revertingWorld {} generousCall := by
  have fits : generousCall.tx.maxFee.toNat * generousCall.tx.gasLimit.toNat +
      generousCall.tx.value.toNat < Word.modulus := by decide
  have run : ((execute (Mainnet.rules .london) {} revertingWorld {} generousCall).outcome,
      (execute (Mainnet.rules .london) ⟨some 2, none⟩ revertingWorld {} generousCall).aborted) =
      (.revert, true) := by
    rw [Mainnet.rules_eq_readOff, execute, execute, validate, sender_generousCall]
    decide +kernel
  obtain ⟨reverts, aborted⟩ := Prod.mk.inj run
  have ends := (outcomes_classified .london {} revertingWorld {} generousCall fits).1
  have stops := (outcomes_classified .london ⟨some 2, none⟩ revertingWorld {} generousCall fits).1
  rcases (stops.aborted.mp aborted).2 with ⟨ceiling, limited, _⟩ | exceeds
  · cases limited
  · exact ⟨fits, reverts, ends.reverted reverts, aborted, exceeds⟩

end StateTransition.Evm
