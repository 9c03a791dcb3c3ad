import StateTransition.Proofs.Execution.Gas
import StateTransition.Proofs.Execution.Preparation
import StateTransition.Proofs.FrameStack.Counting

/-!
The nonces of an execution. The sender of a transaction and the creators among its frames use up a
nonce each time. A creator at the largest nonce is refused. A sender at the largest nonce is not:
its nonce stays, and the same transaction can be executed once more.
-/

namespace StateTransition.Evm

open FrameStack

variable {rules : Rules} {world : World} {environment : Environment} {tx : Transaction}
  {accepted : Accepted} {charged : Journal}

theorem nonce_prepare (charges : charge world tx accepted = .ok charged) :
    (prepare rules environment tx accepted charged).nonce accepted.sender =
      Journal.nextNonce (world.nonce accepted.sender) :=
  congrArg Account.nonce (World.account_of_get? (account?_prepare_sender charges))

theorem stepsUp_prepare (charges : charge world tx accepted = .ok charged)
    (room : (world.nonce accepted.sender).toNat + 1 < UInt64.size) :
    (prepare rules environment tx accepted charged).StepsUp := by
  have paid := (debit_of_charge charges).2
  have same : charged.nonce accepted.sender = world.nonce accepted.sender := by
    rw [paid]
    exact (Journal.sameOccupants_setBalance _ _ _).nonce accepted.sender
  have debited : (Journal.start world).KeepsSteps charged := by
    rw [paid]
    exact Journal.keepsSteps_setBalance _ _ _
  have counted := Journal.keepsSteps_bumpNonce charged accepted.sender (same ▸ room)
  exact ((debited.trans counted).trans
    (Journal.keepsSteps_prewarm rules environment tx accepted.sender _ _))
    (Journal.stepsUp_start world)

/-- Every creation of a frame counts its creator's nonce up by one, unless it is refused and changes
nothing. The execution of an accepted transaction counts all nonces upwards, the sender's and those
of its creators, exactly if the nonce of the transaction is not the largest one. If it is, the
sender's nonce stays. -/
theorem nonces_step_up_iff (fork : Fork) (world : World) (environment : Environment)
    (signed : SignedTransaction) (accepted : Accepted) (charged : Journal)
    (validated : validate (Mainnet.rules fork) world environment signed = .ok accepted)
    (charges : charge world signed.tx accepted = .ok charged) :
    let setting := accepted.setting (Mainnet.rules fork) environment
    let attempt := Attempt.ofTransaction signed.tx accepted.sender
      (signed.tx.gasLimit.toNat - accepted.intrinsic)
    let prepared := prepare (Mainnet.rules fork) environment signed.tx accepted charged
    (∀ journal request,
      if refusesCreate setting.rules journal request then
        (startCreate setting journal request).2 = journal
      else
        ((startCreate setting journal request).2.nonce request.caller).toNat =
          (journal.nonce request.caller).toNat + 1) ∧
    ((prepared.nonce accepted.sender).toNat = (world.nonce accepted.sender).toNat + 1 ∧
        prepared.StepsUp ∧
        (∀ stack openings, Underway setting attempt prepared stack openings →
          stack.journal.StepsUp) ∧
        (∀ opened remaining result left next,
          Ends setting attempt prepared opened remaining result left next → left.StepsUp) ↔
      signed.tx.nonce.toNat + 1 < UInt64.size) ∧
    (¬ signed.tx.nonce.toNat + 1 < UInt64.size →
      prepared.nonce accepted.sender = world.nonce accepted.sender) := by
  intro setting attempt prepared
  have nonce : prepared.nonce accepted.sender =
      Journal.nextNonce (world.nonce accepted.sender) := nonce_prepare charges
  have asked := (accepts_of_validate validated).nonce
  rw [asked]
  refine ⟨startCreate_counts setting, ⟨?_, ?_⟩, ?_⟩
  · intro ⟨step, _⟩
    rw [nonce] at step
    exact (Journal.toNat_nextNonce_iff _).mp step
  · intro room
    have start : prepared.StepsUp := stepsUp_prepare charges room
    refine ⟨?_, start, ?_, ?_⟩
    · rw [nonce]
      exact (Journal.toNat_nextNonce_iff _).mpr room
    · intro stack openings underway
      exact (underway.holdsAlong (runInvariant_stepsUp setting) start).1
    · intro opened remaining result left next ends
      exact ends.holds_left (runInvariant_stepsUp setting) start
  · intro last
    rw [nonce]
    exact Journal.nextNonce_of_last last

def lastCall : SignedTransaction where
  tx :=
    { nonce := 0xffffffffffffffff
      gasLimit := 21000
      recipient := some ⟨0x2000#160⟩
      value := 0#256
      data := []
      kind := .legacy 10#256 none }
  v := 27
  r := ⟨0x0435d8a1e5804b4cfd0eea8022461e71de7f57cc10e110d4d211a60966fc25ac#256⟩
  s := ⟨0x6460cb028c207b33678f0671e6e4a013f2e9589222311440247dd31ffd70e7ff#256⟩

def lastWorld : World :=
  .ofList
    [(⟨0x7e5f4552091a69125d5dfcb7b8c2659029395bdf#160⟩,
      { nonce := 0xffffffffffffffff, balance := 0xde0b6b3a7640000#256 })]

theorem sender_lastCall :
    lastCall.sender = .ok ⟨0x7e5f4552091a69125d5dfcb7b8c2659029395bdf#160⟩ := by
  apply eq_ok_of_toOption
  decide +kernel

/-- The call is executed, its sender's nonce stays, and it is executed again. -/
theorem last_nonce_stays :
    let sender : Address := ⟨0x7e5f4552091a69125d5dfcb7b8c2659029395bdf#160⟩
    let result := execute (Mainnet.rules .london) {} lastWorld {} lastCall
    lastCall.sender = .ok sender ∧ result.outcome = .success ∧
    result.post.nonce sender = lastWorld.nonce sender ∧
    (result.post.nonce sender).toNat ≠ (lastWorld.nonce sender).toNat + 1 ∧
    (execute (Mainnet.rules .london) {} result.post {} lastCall).outcome = .success := by
  refine ⟨sender_lastCall, ?_⟩
  rw [Mainnet.rules_eq_readOff, execute, execute, validate, validate, sender_lastCall]
  decide

theorem nonces_step_up_payment : ∃ accepted charged,
    validate (Mainnet.rules .london) payerWorld {} payment = .ok accepted ∧
    charge payerWorld payment.tx accepted = .ok charged ∧
    let prepared := prepare (Mainnet.rules .london) {} payment.tx accepted charged
    (prepared.nonce accepted.sender).toNat = (payerWorld.nonce accepted.sender).toNat + 1 ∧
    prepared.StepsUp := by
  have checked : ((validate (Mainnet.rules .london) payerWorld {} payment).toOption.bind
      fun accepted => (charge payerWorld payment.tx accepted).toOption.map fun charged =>
        (accepted, charged)).isSome = true := by
    rw [Mainnet.rules_eq_readOff, validate, sender_payment]
    decide
  obtain ⟨⟨accepted, charged⟩, found⟩ := Option.isSome_iff_exists.mp checked
  obtain ⟨answer, valid, charging⟩ := Option.bind_eq_some_iff.mp found
  obtain ⟨debited, paid, same⟩ := Option.map_eq_some_iff.mp charging
  cases same
  have validated := eq_ok_of_toOption valid
  have charges := eq_ok_of_toOption paid
  have room : payment.tx.nonce.toNat + 1 < UInt64.size := by decide
  have counted := ((nonces_step_up_iff .london payerWorld {} payment accepted charged validated
    charges).2.1.mpr room)
  exact ⟨accepted, charged, validated, charges, counted.1, counted.2.1⟩

end StateTransition.Evm
