import StateTransition.Proofs.Execution.Outcome
import StateTransition.Proofs.FrameStack.Termination

/-!
How long a transaction can run: at most two instructions for each unit of the gas that is left after
the intrinsic gas, and one more. A step limit that is not below that has no effect.
-/

namespace StateTransition.Evm

open FrameStack

/-- The most instructions a transaction can begin. -/
def stepBound (tx : Transaction) (accepted : Accepted) : Nat :=
  2 * (tx.gasLimit.toNat - accepted.intrinsic) + 1

/-- Whether a transaction may run for as long as it can. -/
def Limits.Allow (limits : Limits) (bound : Nat) : Prop :=
  ∀ maxSteps, limits.maxSteps = some maxSteps → bound ≤ maxSteps.toNat

def runFor (rules : Rules) (environment : Environment) (tx : Transaction) (accepted : Accepted)
    (charged : Journal) (steps : Nat) : Option Ending :=
  let start := (Attempt.ofTransaction tx accepted.sender
    (tx.gasLimit.toNat - accepted.intrinsic)).enter (accepted.setting rules environment)
    (prepare rules environment tx accepted charged)
  runEntry (accepted.setting rules environment) steps start.1 start.2

/-- The call or creation of a transaction comes to an end within a bound. Any number of steps is
enough that is not less than it takes, and an engine without a step limit sees it end. -/
structure EndsWithin (bound : Nat) (rules : Rules) (environment : Environment) (tx : Transaction)
    (accepted : Accepted) (charged : Journal) (ending : Ending) : Prop where
  ticks : ending.ticks ≤ bound
  run : ∀ steps, runFor rules environment tx accepted charged steps =
    if ending.ticks ≤ steps then some ending else none
  unlimited : ∀ limits, limits.maxSteps = none →
    runTransaction rules limits environment tx accepted charged = some ending

variable {rules : Rules} {limits : Limits} {world : World} {environment : Environment}
  {tx : Transaction} {signed : SignedTransaction} {accepted : Accepted} {charged : Journal}
  {ending : Ending}

theorem stepBound_le_steps (allows : limits.Allow (stepBound tx accepted)) :
    stepBound tx accepted ≤ limits.steps := by
  rw [Limits.steps]
  cases limited : limits.maxSteps with
  | none =>
    have bound := tx.gasLimit.toNat_lt
    simp only [Option.elim_none, unlimitedSteps, stepBound, UInt64.size]
    omega
  | some maxSteps => exact allows maxSteps limited

theorem runTransaction_of_allow (within : ending.ticks ≤ stepBound tx accepted)
    (run : ∀ steps, runFor rules environment tx accepted charged steps =
      if ending.ticks ≤ steps then some ending else none)
    (allows : limits.Allow (stepBound tx accepted)) :
    runTransaction rules limits environment tx accepted charged = some ending := by
  have enough : ending.ticks ≤ limits.steps :=
    Nat.le_trans within (stepBound_le_steps allows)
  have finishes := run limits.steps
  rw [if_pos enough] at finishes
  exact finishes

theorem exists_endsWithin (metered : rules.Metered) (environment : Environment) (tx : Transaction)
    (accepted : Accepted) (charged : Journal) :
    ∃ ending, EndsWithin (stepBound tx accepted) rules environment tx accepted charged
      ending := by
  have settled : (accepted.setting rules environment).rules.Metered := metered
  obtain ⟨ending, within, run⟩ := terminates settled
    (.ofTransaction tx accepted.sender (tx.gasLimit.toNat - accepted.intrinsic))
    (prepare rules environment tx accepted charged)
  rw [Attempt.gas_ofTransaction] at within
  refine ⟨ending, within, run, ?_⟩
  intro limits unlimited
  apply runTransaction_of_allow within run
  intro maxSteps limited
  rw [unlimited] at limited
  cases limited

theorem transact_of_allow (metered : rules.Metered) (world : World) (environment : Environment)
    (allows : limits.Allow (stepBound tx accepted)) :
    transact rules limits world environment tx accepted =
        transact rules { limits with maxSteps := none } world environment tx accepted ∧
      ∀ limit, (transact rules limits world environment tx accepted).error ≠
        some (.abandoned (.stepLimitExceeded limit)) := by
  simp only [transact]
  cases charge world tx accepted with
  | error cause =>
    cases cause with
    | overflow | insufficientFunds cause =>
      refine ⟨rfl, ?_⟩
      intro limit same
      cases same
  | ok charged =>
    obtain ⟨ending, ends⟩ := exists_endsWithin metered environment tx accepted charged
    have limited := runTransaction_of_allow ends.ticks ends.run allows
    simp only [limited, ends.unlimited { limits with maxSteps := none } rfl]
    refine ⟨by cases ending <;> rfl, ?_⟩
    intro limit same
    cases ending with
    | overflowed ticks => cases same
    | finished completion =>
    have reported : (classify completion.result.status).2 =
        some (.abandoned (.stepLimitExceeded limit)) := same
    cases status : completion.result.status with
    | success | revert =>
      rw [status] at reported
      cases reported
    | halt reason =>
      rw [status] at reported
      cases reason <;> cases reported

theorem execute_of_allow (metered : rules.Metered)
    (validated : validate rules world environment signed = .ok accepted)
    (allows : limits.Allow (stepBound signed.tx accepted)) :
    execute rules limits world environment signed =
        execute rules { limits with maxSteps := none } world environment signed ∧
      ∀ limit, (execute rules limits world environment signed).error ≠
        some (.abandoned (.stepLimitExceeded limit)) := by
  have transacts := transact_of_allow metered world environment allows
  simp only [execute, validated]
  cases limits.gasCeiling with
  | none => exact transacts
  | some ceiling =>
    simp only
    split
    · refine ⟨rfl, ?_⟩
      intro limit same
      cases same
    · exact transacts

/-- At every fork of the main network the frames of an accepted transaction come to an end, whatever
the world, the block and the code. They begin at most two instructions for each unit of gas left
after the intrinsic gas and one more, so that no step limit from there on stops the transaction. -/
theorem transaction_terminates (fork : Fork) (world : World) (environment : Environment)
    (signed : SignedTransaction) (accepted : Accepted)
    (validated : validate (Mainnet.rules fork) world environment signed = .ok accepted) :
    (∀ charged, ∃ ending,
      EndsWithin (2 * (signed.tx.gasLimit.toNat - accepted.intrinsic) + 1) (Mainnet.rules fork)
        environment signed.tx accepted charged ending) ∧
    ∀ limits, limits.Allow (2 * (signed.tx.gasLimit.toNat - accepted.intrinsic) + 1) →
      execute (Mainnet.rules fork) limits world environment signed =
          execute (Mainnet.rules fork) { limits with maxSteps := none } world environment signed ∧
        ∀ limit, (execute (Mainnet.rules fork) limits world environment signed).error ≠
          some (.abandoned (.stepLimitExceeded limit)) := by
  have metered := Mainnet.metered fork
  generalize Mainnet.rules fork = rules at validated metered ⊢
  constructor
  · intro charged
    exact exists_endsWithin metered environment signed.tx accepted charged
  · intro limits allows
    exact execute_of_allow metered validated allows

def generousCall : SignedTransaction where
  tx :=
    { nonce := 0
      gasLimit := 100000
      recipient := some ⟨0x2000#160⟩
      value := 0#256
      data := []
      kind := .legacy 10#256 none }
  v := 27
  r := ⟨0xaaa914c798cf41ac4689dfb2a0dfeafff72ac765d5f58f45710dc3ae41578b87#256⟩
  s := ⟨0x784f23f6bd44da8ac248b13406dc0d4a33a55a27c1582e75ece33fd9392e7382#256⟩

theorem sender_generousCall :
    generousCall.sender = .ok ⟨0x7e5f4552091a69125d5dfcb7b8c2659029395bdf#160⟩ := by
  apply eq_ok_of_toOption
  decide +kernel

/-- The call goes to a contract that jumps in a circle. -/
def circlingWorld : World :=
  .ofList
    [(⟨0x2000#160⟩, { code := [0x5b, 0x60, 0x00, 0x56] }),
     (⟨0x7e5f4552091a69125d5dfcb7b8c2659029395bdf#160⟩, { balance := 1000000#256 })]

theorem transaction_terminates_circle : ∃ accepted,
    validate (Mainnet.rules .berlin) circlingWorld {} generousCall = .ok accepted ∧
      accepted.intrinsic = 21000 ∧
      (∀ charged, ∃ ending,
        EndsWithin (2 * (generousCall.tx.gasLimit.toNat - accepted.intrinsic) + 1)
          (Mainnet.rules .berlin) {} generousCall.tx accepted charged ending) ∧
      ∀ limits : Limits,
        limits.Allow (2 * (generousCall.tx.gasLimit.toNat - accepted.intrinsic) + 1) →
        execute (Mainnet.rules .berlin) limits circlingWorld {} generousCall =
            execute (Mainnet.rules .berlin) { limits with maxSteps := none } circlingWorld {}
              generousCall ∧
          ∀ limit, (execute (Mainnet.rules .berlin) limits circlingWorld {} generousCall).error ≠
            some (.abandoned (.stepLimitExceeded limit)) := by
  have checked : (validate (Mainnet.rules .berlin) circlingWorld {} generousCall).toOption.map
      Accepted.intrinsic = some 21000 := by
    rw [Mainnet.rules_eq_readOff, validate, sender_generousCall]
    decide
  obtain ⟨accepted, validated, intrinsic⟩ := Option.map_eq_some_iff.mp checked
  have accepts := eq_ok_of_toOption validated
  exact ⟨accepted, accepts, intrinsic,
    transaction_terminates .berlin circlingWorld {} generousCall accepted accepts⟩

end StateTransition.Evm
