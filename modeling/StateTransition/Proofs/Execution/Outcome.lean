import StateTransition.Evm.Execution
import StateTransition.Proofs.Execution.Validation
import StateTransition.Proofs.FrameStack.Endings

/-!
What an execution that is not rejected, abandoned or stopped has gone through: the checks, the charge up
front, a run of frames to its end, and the settlement.
-/

namespace StateTransition.Evm

/-- Not rejected, not abandoned, and not stopped by an overflow. -/
def ExecutionResult.isCompleted (result : ExecutionResult) : Bool :=
  result.outcome != .fatal && result.outcome != .overflow && !result.aborted

/-- What a transaction comes to whose call or creation ends. -/
def Ending.settle (setting : Setting) (world : World) (tx : Transaction) :
    Ending → ExecutionResult
  | .finished completion => settleFees setting world tx completion
  | .overflowed _ => .overflowed world

/-- The stations of an execution that is completed. -/
structure Completes (rules : Rules) (limits : Limits) (world : World) (environment : Environment)
    (signed : SignedTransaction) (accepted : Accepted) (charged : Journal)
    (completion : Completion) : Prop where
  accepts : Accepts rules world environment signed accepted
  charges : charge world signed.tx accepted = .ok charged
  runs : runTransaction rules limits environment signed.tx accepted charged =
    some (.finished completion)
  settles : execute rules limits world environment signed =
    settleFees (accepted.setting rules environment) world signed.tx completion

variable {rules : Rules} {limits : Limits} {world : World} {environment : Environment}
  {signed : SignedTransaction}

theorem isCompleted_settleFees (setting : Setting) (world : World) (tx : Transaction)
    (completion : Completion) : (settleFees setting world tx completion).isCompleted = true := by
  have outcome : (settleFees setting world tx completion).outcome =
      (classify completion.result.status).1 := rfl
  have settled : (settleFees setting world tx completion).aborted = false := rfl
  rw [ExecutionResult.isCompleted, outcome, settled]
  cases completion.result.status with
  | success => rfl
  | revert => rfl
  | halt reason => cases reason <;> rfl

theorem transact_of_charge {tx : Transaction} {accepted : Accepted} {charged : Journal}
    (charges : charge world tx accepted = .ok charged) :
    transact rules limits world environment tx accepted =
      ((runTransaction rules limits environment tx accepted charged).map
        (Ending.settle (accepted.setting rules environment) world tx)).getD
        (.abandoned world (.abandoned (.stepLimitExceeded (limits.maxSteps.getD 0)))) := by
  simp only [transact, charges]
  cases runTransaction rules limits environment tx accepted charged with
  | none => rfl
  | some ending => cases ending <;> rfl

theorem transact_cases (rules : Rules) (limits : Limits) (world : World)
    (environment : Environment) (tx : Transaction) (accepted : Accepted) :
    ((transact rules limits world environment tx accepted).isCompleted = false ∧
      (transact rules limits world environment tx accepted).post = world) ∨
    ∃ charged completion, charge world tx accepted = .ok charged ∧
      runTransaction rules limits environment tx accepted charged =
        some (.finished completion) ∧
      transact rules limits world environment tx accepted =
        settleFees (accepted.setting rules environment) world tx completion := by
  rw [transact]
  cases charge world tx accepted with
  | error cause => cases cause <;> exact .inl ⟨rfl, rfl⟩
  | ok charged =>
    simp only
    cases runs : runTransaction rules limits environment tx accepted charged with
    | none => exact .inl ⟨rfl, rfl⟩
    | some ending =>
      cases ending with
      | overflowed ticks => exact .inl ⟨rfl, rfl⟩
      | finished completion => exact .inr ⟨charged, completion, rfl, runs, rfl⟩

/-- A transaction is rejected, abandoned or stopped and leaves the world as it was, or it is
completed. -/
theorem execute_cases (rules : Rules) (limits : Limits) (world : World) (environment : Environment)
    (signed : SignedTransaction) :
    ((execute rules limits world environment signed).isCompleted = false ∧
      (execute rules limits world environment signed).post = world) ∨
    ∃ accepted charged completion,
      Completes rules limits world environment signed accepted charged completion := by
  cases validated : validate rules world environment signed with
  | error reason =>
    rw [execute, validated]
    exact .inl ⟨rfl, rfl⟩
  | ok accepted =>
    have transacts (same : execute rules limits world environment signed =
        transact rules limits world environment signed.tx accepted) :
        ((execute rules limits world environment signed).isCompleted = false ∧
          (execute rules limits world environment signed).post = world) ∨
        ∃ accepted charged completion,
          Completes rules limits world environment signed accepted charged completion := by
      rcases transact_cases rules limits world environment signed.tx accepted with left | right
      · rw [same]
        exact .inl left
      · obtain ⟨charged, completion, charges, runs, settles⟩ := right
        exact .inr ⟨accepted, charged, completion, accepts_of_validate validated, charges, runs,
          same.trans settles⟩
    cases limited : limits.gasCeiling with
    | none =>
      apply transacts
      simp only [execute, validated, limited]
    | some ceiling =>
      by_cases above : ceiling < signed.tx.gasLimit
      · left
        simp only [execute, validated, limited, if_pos above]
        exact ⟨rfl, rfl⟩
      · apply transacts
        simp only [execute, validated, limited, if_neg above]

theorem completes_of_isCompleted
    (completed : (execute rules limits world environment signed).isCompleted = true) :
    ∃ accepted charged completion,
      Completes rules limits world environment signed accepted charged completion := by
  rcases execute_cases rules limits world environment signed with left | right
  · rw [completed] at left
    exact absurd left.1 (by simp)
  · exact right

theorem post_of_not_isCompleted
    (incomplete : (execute rules limits world environment signed).isCompleted = false) :
    (execute rules limits world environment signed).post = world := by
  rcases execute_cases rules limits world environment signed with left | right
  · exact left.2
  · obtain ⟨accepted, charged, completion, completes⟩ := right
    rw [completes.settles, isCompleted_settleFees] at incomplete
    cases incomplete

theorem debit_of_charge {tx : Transaction} {accepted : Accepted} {charged : Journal}
    (charges : charge world tx accepted = .ok charged) :
    (Journal.start world).cannotPay accepted.sender
        (accepted.gasPrice * Word.ofNat tx.gasLimit.toNat) = false ∧
      charged = (Journal.start world).debit accepted.sender
        (accepted.gasPrice * Word.ofNat tx.gasLimit.toNat) := by
  rw [charge] at charges
  split at charges
  · rw [Journal.subBalance] at charges
    split at charges
    · cases charges
    · rename_i payable
      cases charges
      exact ⟨Bool.eq_false_iff.mpr payable, rfl⟩
  · cases charges

/-- The engine's ceiling is below the gas limit. -/
def ExceedsCeiling (limits : Limits) (signed : SignedTransaction) : Prop :=
  ∃ ceiling, limits.gasCeiling = some ceiling ∧ ceiling < signed.tx.gasLimit

theorem execute_of_below {accepted : Accepted}
    (validated : validate rules world environment signed = .ok accepted)
    (below : ∀ ceiling, limits.gasCeiling = some ceiling → signed.tx.gasLimit ≤ ceiling) :
    execute rules limits world environment signed =
      transact rules limits world environment signed.tx accepted := by
  simp only [execute, validated]
  cases limited : limits.gasCeiling with
  | none => rfl
  | some ceiling => exact if_neg (UInt64.not_lt.mpr (below ceiling limited))

theorem execute_of_above {accepted : Accepted} {ceiling : UInt64}
    (validated : validate rules world environment signed = .ok accepted)
    (limited : limits.gasCeiling = some ceiling) (above : ceiling < signed.tx.gasLimit) :
    execute rules limits world environment signed =
      .abandoned world (.abandoned (.gasCeilingExceeded signed.tx.gasLimit ceiling)) := by
  simp only [execute, validated, limited, if_pos above]

theorem charge_eq_overflow_iff {tx : Transaction} {accepted : Accepted} :
    charge world tx accepted = .error .overflow ↔
      Word.modulus ≤ accepted.gasPrice.toNat * tx.gasLimit.toNat := by
  rw [charge, ← Nat.not_lt]
  split
  · rename_i fits
    rw [Journal.subBalance]
    split
    all_goals
      refine ⟨?_, fun exceeds => absurd fits exceeds⟩
      intro same
      cases same
  · rename_i overflows
    simp [overflows]

/-- The price of the gas limit is no word. -/
def PriceOverflows (rules : Rules) (limits : Limits) (world : World) (environment : Environment)
    (signed : SignedTransaction) : Prop :=
  ∃ accepted, validate rules world environment signed = .ok accepted ∧
    ¬ ExceedsCeiling limits signed ∧
    Word.modulus ≤ accepted.gasPrice.toNat * signed.tx.gasLimit.toNat

/-- The refund counter leaves its range while the call or creation is made. -/
def RefundOverflows (rules : Rules) (limits : Limits) (world : World) (environment : Environment)
    (signed : SignedTransaction) : Prop :=
  ∃ accepted charged ticks, validate rules world environment signed = .ok accepted ∧
    ¬ ExceedsCeiling limits signed ∧
    charge world signed.tx accepted = .ok charged ∧
    runTransaction rules limits environment signed.tx accepted charged = some (.overflowed ticks)

theorem execute_of_not_exceedsCeiling {accepted : Accepted}
    (validated : validate rules world environment signed = .ok accepted)
    (under : ¬ ExceedsCeiling limits signed) :
    execute rules limits world environment signed =
      transact rules limits world environment signed.tx accepted :=
  execute_of_below validated fun ceiling limited =>
    UInt64.not_lt.mp fun above => under ⟨ceiling, limited, above⟩

theorem execute_of_priceOverflows
    (overflows : PriceOverflows rules limits world environment signed) :
    execute rules limits world environment signed = .overflowed world := by
  obtain ⟨accepted, validated, under, large⟩ := overflows
  rw [execute_of_not_exceedsCeiling validated under, transact, charge_eq_overflow_iff.mpr large]

theorem execute_of_refundOverflows
    (overflows : RefundOverflows rules limits world environment signed) :
    execute rules limits world environment signed = .overflowed world := by
  obtain ⟨accepted, charged, ticks, validated, under, charges, ends⟩ := overflows
  rw [execute_of_not_exceedsCeiling validated under, transact_of_charge charges, ends]
  rfl

theorem outcome_settleFees_ne_overflow (setting : Setting) (world : World) (tx : Transaction)
    (completion : Completion) : (settleFees setting world tx completion).outcome ≠ .overflow := by
  intro stops
  have completed := isCompleted_settleFees setting world tx completion
  rw [ExecutionResult.isCompleted, stops] at completed
  simp at completed

/-- An execution stops without a result where one of the two overflows happens, and only there. -/
theorem outcome_eq_overflow_iff :
    (execute rules limits world environment signed).outcome = .overflow ↔
      PriceOverflows rules limits world environment signed ∨
        RefundOverflows rules limits world environment signed := by
  constructor
  · intro stops
    cases validated : validate rules world environment signed with
    | error reason =>
      rw [execute, validated] at stops
      cases stops
    | ok accepted =>
      by_cases exceeds : ExceedsCeiling limits signed
      · obtain ⟨ceiling, limited, above⟩ := exceeds
        rw [execute_of_above validated limited above] at stops
        cases stops
      · rw [execute_of_not_exceedsCeiling validated exceeds] at stops
        cases charges : charge world signed.tx accepted with
        | error cause =>
          rw [transact, charges] at stops
          cases cause with
          | overflow => exact .inl ⟨accepted, validated, exceeds, charge_eq_overflow_iff.mp charges⟩
          | insufficientFunds cause => cases stops
        | ok charged =>
          rw [transact_of_charge charges] at stops
          cases runs : runTransaction rules limits environment signed.tx accepted charged with
          | none =>
            rw [runs] at stops
            cases stops
          | some ending =>
            rw [runs] at stops
            cases ending with
            | overflowed ticks =>
              exact .inr ⟨accepted, charged, ticks, validated, exceeds, charges, runs⟩
            | finished completion => exact absurd stops (outcome_settleFees_ne_overflow _ _ _ _)
  · rintro (overflows | overflows)
    · rw [execute_of_priceOverflows overflows]
      rfl
    · rw [execute_of_refundOverflows overflows]
      rfl

@[simp] theorem Attempt.gas_ofTransaction (tx : Transaction) (sender : Address) (gas : Nat) :
    (Attempt.ofTransaction tx sender gas).gas = gas := by
  rw [Attempt.ofTransaction]
  split <;> rfl

namespace Completes

variable {accepted : Accepted} {charged : Journal} {completion : Completion}

theorem ends
    (completes : Completes rules limits world environment signed accepted charged completion) :
    ∃ remaining, FrameStack.Ends (accepted.setting rules environment)
      (.ofTransaction signed.tx accepted.sender
        (signed.tx.gasLimit.toNat - accepted.intrinsic))
      (prepare rules environment signed.tx accepted charged)
      ⟨.ofTransaction signed.tx accepted.sender
        (signed.tx.gasLimit.toNat - accepted.intrinsic),
        prepare rules environment signed.tx accepted charged, none⟩
      remaining completion.result completion.journal (.ended (.finished completion)) :=
  FrameStack.ends_of_runEntry completes.runs

end Completes

end StateTransition.Evm
