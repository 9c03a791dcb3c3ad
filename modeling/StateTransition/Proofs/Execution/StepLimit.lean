import StateTransition.Proofs.Execution.Identity
import StateTransition.Proofs.Execution.Termination

/-!
The step limit. A run of frames that comes to an end begins a fixed number of instructions; with that
many steps or more it ends alike, with fewer it does not end. So a limit is either without effect or
stops the transaction as if it had never been executed. Nothing is assumed about the rules: an
execution that goes on for ever is one that does not finish.
-/

namespace StateTransition.Evm

theorem runEntry_of_runEntry {setting : Setting} {steps : Nat} {entry : Entry} {journal : Journal}
    {ending : Ending} (ends : runEntry setting steps entry journal = some ending)
    (count : Nat) : runEntry setting count entry journal =
      if ending.ticks ≤ count then some ending else none := by
  cases entry with
  | run activation =>
    have runs := (FrameStack.run_of_run ends).2 count
    rw [Nat.zero_add] at runs
    exact runs
  | done kind result =>
    cases ends
    exact (if_pos (Nat.zero_le count)).symm

theorem ticks_le_of_runEntry {setting : Setting} {steps : Nat} {entry : Entry} {journal : Journal}
    {ending : Ending} (ends : runEntry setting steps entry journal = some ending) :
    ending.ticks ≤ steps := by
  have runs := runEntry_of_runEntry ends steps
  rw [ends] at runs
  split at runs
  · assumption
  · cases runs

variable {rules : Rules} {limits : Limits} {gasCeiling : Option UInt64} {world : World}
  {environment : Environment} {signed : SignedTransaction} {accepted : Accepted}
  {charged : Journal} {ending : Ending} {result : ExecutionResult} {ticks : Nat}

/-- What an execution without a step limit comes to, and how many instructions it begins. One that is
over before its call or creation is made begins none. -/
inductive Finishes (rules : Rules) (gasCeiling : Option UInt64) (world : World)
    (environment : Environment) (signed : SignedTransaction) : ExecutionResult → Nat → Prop where
  | rejected {reason : Rejection}
      (refuses : validate rules world environment signed = .error reason) :
      Finishes rules gasCeiling world environment signed (.rejected world reason) 0
  | aboveCeiling {accepted : Accepted} {ceiling : UInt64}
      (validated : validate rules world environment signed = .ok accepted)
      (limited : gasCeiling = some ceiling) (above : ceiling < signed.tx.gasLimit) :
      Finishes rules gasCeiling world environment signed
        (.abandoned world (.abandoned (.gasCeilingExceeded signed.tx.gasLimit ceiling))) 0
  | unpriced {accepted : Accepted}
      (validated : validate rules world environment signed = .ok accepted)
      (below : ∀ ceiling, gasCeiling = some ceiling → signed.tx.gasLimit ≤ ceiling)
      (lacks : charge world signed.tx accepted = .error .overflow) :
      Finishes rules gasCeiling world environment signed (.overflowed world) 0
  | unpaid {accepted : Accepted} {cause : InsufficientFunds}
      (validated : validate rules world environment signed = .ok accepted)
      (below : ∀ ceiling, gasCeiling = some ceiling → signed.tx.gasLimit ≤ ceiling)
      (lacks : charge world signed.tx accepted = .error (.insufficientFunds cause)) :
      Finishes rules gasCeiling world environment signed
        (.abandoned world (.rejected (.insufficientFunds cause))) 0
  | ran {accepted : Accepted} {charged : Journal} {ending : Ending} {steps : Nat}
      (validated : validate rules world environment signed = .ok accepted)
      (below : ∀ ceiling, gasCeiling = some ceiling → signed.tx.gasLimit ≤ ceiling)
      (charges : charge world signed.tx accepted = .ok charged)
      (runs : runFor rules environment signed.tx accepted charged steps = some ending) :
      Finishes rules gasCeiling world environment signed
        (ending.settle (accepted.setting rules environment) world signed.tx) ending.ticks

theorem runTransaction_eq_runFor (limits : Limits) (tx : Transaction) :
    runTransaction rules limits environment tx accepted charged =
      runFor rules environment tx accepted charged limits.steps := rfl

@[simp] theorem Limits.steps_none : (⟨none, gasCeiling⟩ : Limits).steps = unlimitedSteps := by
  rw [steps, Option.elim_none]

@[simp] theorem Limits.steps_some (limit : UInt64) :
    (⟨some limit, gasCeiling⟩ : Limits).steps = limit.toNat := by
  rw [steps, Option.elim_some]

namespace Finishes

theorem execute_of_le
    (finishes : Finishes rules limits.gasCeiling world environment signed result ticks)
    (enough : ticks ≤ limits.steps) : execute rules limits world environment signed = result := by
  cases finishes with
  | rejected refuses => rw [execute, refuses]
  | aboveCeiling validated limited above => exact execute_of_above validated limited above
  | unpriced validated below lacks | unpaid validated below lacks =>
    rw [execute_of_below validated below, transact, lacks]
  | @ran accepted charged ending steps validated below charges runs =>
    have ends : runTransaction rules limits environment signed.tx accepted charged =
        some ending := (runEntry_of_runEntry runs limits.steps).trans (if_pos enough)
    rw [execute_of_below validated below, transact_of_charge charges, ends]
    rfl

theorem execute_of_lt
    (finishes : Finishes rules limits.gasCeiling world environment signed result ticks)
    (short : limits.steps < ticks) : execute rules limits world environment signed =
      .abandoned world (.abandoned (.stepLimitExceeded (limits.maxSteps.getD 0))) := by
  cases finishes with
  | rejected | aboveCeiling | unpriced | unpaid => exact absurd short (Nat.not_lt_zero _)
  | @ran accepted charged ending steps validated below charges runs =>
    have stops : runTransaction rules limits environment signed.tx accepted charged = none :=
      (runEntry_of_runEntry runs limits.steps).trans (if_neg (Nat.not_le.mpr short))
    rw [execute_of_below validated below, transact_of_charge charges, stops]
    rfl

end Finishes

/-- An execution without a step limit finishes, unless it begins more instructions than any amount of
gas pays for. -/
theorem finishes_or_stopped (rules : Rules) (gasCeiling : Option UInt64) (world : World)
    (environment : Environment) (signed : SignedTransaction) :
    (∃ ticks ≤ unlimitedSteps, Finishes rules gasCeiling world environment signed
      (execute rules ⟨none, gasCeiling⟩ world environment signed) ticks) ∨
    execute rules ⟨none, gasCeiling⟩ world environment signed =
      .abandoned world (.abandoned (.stepLimitExceeded 0)) := by
  have settled {result : ExecutionResult} {ticks : Nat} (few : ticks ≤ unlimitedSteps)
      (finishes : Finishes rules gasCeiling world environment signed result ticks) :
      ∃ ticks ≤ unlimitedSteps, Finishes rules gasCeiling world environment signed
        (execute rules ⟨none, gasCeiling⟩ world environment signed) ticks := by
    have enough : ticks ≤ (⟨none, gasCeiling⟩ : Limits).steps := by
      rw [Limits.steps_none]
      exact few
    rw [finishes.execute_of_le enough]
    exact ⟨ticks, few, finishes⟩
  cases validated : validate rules world environment signed with
  | error reason => exact .inl (settled (Nat.zero_le _) (.rejected validated))
  | ok accepted =>
    by_cases below : ∀ ceiling, gasCeiling = some ceiling → signed.tx.gasLimit ≤ ceiling
    · cases charges : charge world signed.tx accepted with
      | error cause =>
        cases cause with
        | overflow => exact .inl (settled (Nat.zero_le _) (.unpriced validated below charges))
        | insufficientFunds cause =>
          exact .inl (settled (Nat.zero_le _) (.unpaid validated below charges))
      | ok charged =>
        cases runs : runFor rules environment signed.tx accepted charged unlimitedSteps with
        | some ending =>
          have few := ticks_le_of_runEntry runs
          exact .inl (settled few (.ran validated below charges runs))
        | none =>
          right
          have stuck : runTransaction rules ⟨none, gasCeiling⟩ environment signed.tx accepted
              charged = none := by
            rw [runTransaction_eq_runFor, Limits.steps_none]
            exact runs
          rw [execute_of_below validated below, transact_of_charge charges, stuck]
          rfl
    · obtain ⟨ceiling, above⟩ := Classical.not_forall.mp below
      obtain ⟨limited, above⟩ := Classical.not_imp.mp above
      exact .inl (settled (Nat.zero_le _)
        (.aboveCeiling validated limited (UInt64.not_le.mp above)))

theorem exists_finishes (metered : rules.Metered) (gasCeiling : Option UInt64) (world : World)
    (environment : Environment) (signed : SignedTransaction) :
    ∃ ticks ≤ unlimitedSteps, Finishes rules gasCeiling world environment signed
      (execute rules ⟨none, gasCeiling⟩ world environment signed) ticks := by
  rcases finishes_or_stopped rules gasCeiling world environment signed with finishes | stopped
  · exact finishes
  · cases validated : validate rules world environment signed with
    | error reason =>
      rw [execute, validated] at stopped
      cases congrArg ExecutionResult.aborted stopped
    | ok accepted =>
      have allows : (⟨none, gasCeiling⟩ : Limits).Allow (stepBound signed.tx accepted) := by
        intro maxSteps limited
        cases limited
      refine absurd ?_ ((execute_of_allow metered validated allows).2 0)
      rw [stopped]
      rfl

/-- An execution that its step limit stopped. -/
structure ExecutionResult.StoppedAt (limit : UInt64) (world : World) (result : ExecutionResult) :
    Prop where
  aborted : result.aborted = true
  error : result.error = some (.abandoned (.stepLimitExceeded limit))
  gasUsed : result.gasUsed = 0
  logs : result.logs = []
  diff : result.diff = ∅
  post : result.post = world

/-- At whatever rules: a step limit that is not below the number of instructions an execution begins
leaves every field of its result as it is; a lower one stops it and leaves the world as it was. -/
theorem step_limit_transparent (rules : Rules) (gasCeiling : Option UInt64) (world : World)
    (environment : Environment) (signed : SignedTransaction) (result : ExecutionResult)
    (ticks : Nat) (finishes : Finishes rules gasCeiling world environment signed result ticks) :
    (ticks ≤ unlimitedSteps →
      execute rules ⟨none, gasCeiling⟩ world environment signed = result) ∧
    ∀ limit : UInt64,
      (ticks ≤ limit.toNat →
        execute rules ⟨some limit, gasCeiling⟩ world environment signed = result) ∧
      (limit.toNat < ticks →
        (execute rules ⟨some limit, gasCeiling⟩ world environment signed).StoppedAt limit
          world) := by
  constructor
  · intro few
    have enough : ticks ≤ (⟨none, gasCeiling⟩ : Limits).steps := by
      rw [Limits.steps_none]
      exact few
    exact finishes.execute_of_le enough
  · intro limit
    have steps : (⟨some limit, gasCeiling⟩ : Limits).steps = limit.toNat := Limits.steps_some limit
    constructor
    · intro enough
      rw [← steps] at enough
      exact finishes.execute_of_le enough
    · intro less
      rw [← steps] at less
      rw [finishes.execute_of_lt less]
      exact ⟨rfl, rfl, rfl, rfl, rfl, rfl⟩

theorem step_limit_transparent_closing : ∃ result,
    Finishes (Mainnet.rules .berlin) none closingWorld {} generousCall result 2 ∧
    2 ≤ (2 : UInt64).toNat ∧
    execute (Mainnet.rules .berlin) ⟨some 2, none⟩ closingWorld {} generousCall = result ∧
    (1 : UInt64).toNat < 2 ∧
    (execute (Mainnet.rules .berlin) ⟨some 1, none⟩ closingWorld {} generousCall).StoppedAt 1
      closingWorld := by
  have counted : ((validate (Mainnet.rules .berlin) closingWorld {} generousCall).toOption.bind
      fun accepted => (charge closingWorld generousCall.tx accepted).toOption.bind fun charged =>
        (runFor (Mainnet.rules .berlin) {} generousCall.tx accepted charged 10).map
          Ending.ticks) = some 2 := by
    rw [Mainnet.rules_eq_readOff, validate, sender_generousCall]
    decide +kernel
  obtain ⟨accepted, validated, counted⟩ := Option.bind_eq_some_iff.mp counted
  obtain ⟨charged, charges, counted⟩ := Option.bind_eq_some_iff.mp counted
  obtain ⟨ending, runs, ticks⟩ := Option.map_eq_some_iff.mp counted
  have finishes : Finishes (Mainnet.rules .berlin) none closingWorld {} generousCall
      (ending.settle (accepted.setting (Mainnet.rules .berlin) {}) closingWorld generousCall.tx)
      ending.ticks :=
    .ran (eq_ok_of_toOption validated) (by simp) (eq_ok_of_toOption charges) runs
  rw [ticks] at finishes
  have enough : 2 ≤ (2 : UInt64).toNat := by decide
  have less : (1 : UInt64).toNat < 2 := by decide
  obtain ⟨-, limited⟩ := step_limit_transparent (Mainnet.rules .berlin) none closingWorld {}
    generousCall _ 2 finishes
  exact ⟨_, finishes, enough, (limited 2).1 enough, less, (limited 1).2 less⟩

end StateTransition.Evm
