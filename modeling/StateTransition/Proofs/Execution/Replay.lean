import StateTransition.Proofs.Execution.Conservation
import StateTransition.Proofs.Execution.Identity
import StateTransition.Proofs.Execution.Preparation
import StateTransition.Proofs.Execution.Settlement
import StateTransition.Proofs.FrameStack.Nonces

/-!
A transaction that was executed uses up its nonce for good. The sender's nonce is one higher
afterwards, also when the transaction failed, and no transaction of anybody takes that back, so the
same transaction is rejected from then on.
-/

namespace StateTransition

namespace World

/-- The account is there, without code, and has used the nonce. -/
def HasUsed (world : World) (address : Address) (nonce : UInt64) : Prop :=
  ∃ account, world.get? address = some account ∧ account.code = [] ∧ nonce < account.nonce

theorem HasUsed.ne {world : World} {address : Address} {nonce : UInt64}
    (used : world.HasUsed address nonce) : nonce ≠ world.nonce address := by
  obtain ⟨account, held, _, above⟩ := used
  rw [World.nonce, World.account_of_get? held]
  intro equal
  rw [equal] at above
  exact UInt64.lt_irrefl _ above

end World

namespace Evm

open FrameStack

variable {rules : Rules} {limits : Limits} {world : World} {environment : Environment}
  {signed : SignedTransaction} {accepted : Accepted} {charged : Journal} {completion : Completion}
  {address : Address}

theorem execute_of_refused {reason : Rejection}
    (refused : validate rules world environment signed = .error reason) :
    execute rules limits world environment signed = .rejected world reason := by
  rw [execute, refused]

theorem Accepts.validate_of_ne (accepts : Accepts rules world environment signed accepted)
    {later : World} (used : signed.tx.nonce ≠ later.nonce accepted.sender) :
    validate rules later environment signed =
      .error (.nonceMismatch (later.nonce accepted.sender) signed.tx.nonce) := by
  have type : checkType rules signed.tx = .ok () := by
    rw [checkType, accepts.type]
    rfl
  have recovered : signed.sender.mapError Rejection.invalidSender = .ok accepted.sender := by
    rw [accepts.sender]
    rfl
  have mismatch : (signed.tx.nonce == later.nonce accepted.sender) = false := by simpa using used
  simp only [validate, type, accepts.chain, recovered, bind, Except.bind, mismatch, check, if_false,
    Bool.false_eq_true]

theorem exists_rejected {sender : Address} (recovered : signed.sender = .ok sender)
    (used : signed.tx.nonce ≠ world.nonce sender) :
    ∃ reason, execute rules limits world environment signed = .rejected world reason := by
  cases validated : validate rules world environment signed with
  | error reason => exact ⟨reason, execute_of_refused validated⟩
  | ok accepted =>
    have accepts := accepts_of_validate validated
    have same := accepts.sender
    rw [recovered] at same
    cases same
    exact absurd accepts.nonce used

theorem hasUsed_execute {nonce : UInt64} (used : world.HasUsed address nonce) :
    (execute rules limits world environment signed).post.HasUsed address nonce := by
  obtain ⟨account, held, codeless, above⟩ := used
  have established : account.Established := by
    left
    intro zero
    rw [zero] at above
    exact absurd above (UInt64.not_lt_zero)
  rcases execute_cases rules limits world environment signed with
    ⟨_, unchanged⟩ | ⟨accepted, charged, completion, completes⟩
  · rw [unchanged]
    exact ⟨account, held, codeless, above⟩
  · rcases completes.continues_or_schedules held established with ⟨now, there, continues⟩ | closes
    · exact ⟨now, there, continues.code.trans codeless, UInt64.lt_of_lt_of_le above continues.nonce⟩
    · exact absurd codeless closes.2.1

section

variable (completes : Completes rules limits world environment signed accepted charged completion)
  (codeless : (world.account accepted.sender).code = [])
  (room : signed.tx.nonce.toNat + 1 < UInt64.size)

include completes codeless room

theorem Completes.exists_payer :
    ∃ payer : Account, payer.code = [] ∧ payer.nonce = signed.tx.nonce + 1 ∧ payer.Established ∧
      (prepare rules environment signed.tx accepted charged).account? accepted.sender =
        some payer := by
  have counted : Journal.nextNonce (world.nonce accepted.sender) = signed.tx.nonce + 1 := by
    rw [← completes.accepts.nonce, Journal.nextNonce, if_pos room]
  obtain ⟨payer, held, blank, nonce⟩ : ∃ payer : Account,
      (prepare rules environment signed.tx accepted charged).account? accepted.sender =
        some payer ∧ payer.code = [] ∧ payer.nonce = signed.tx.nonce + 1 :=
    ⟨_, account?_prepare_sender completes.charges, codeless, counted⟩
  refine ⟨payer, blank, nonce, .inl ?_, held⟩
  rw [nonce, ← counted]
  exact Journal.nextNonce_ne_zero _

theorem Completes.exists_sender :
    ∃ account, (execute rules limits world environment signed).post.get? accepted.sender =
      some account ∧ account.code = [] ∧ account.nonce = signed.tx.nonce + 1 := by
  obtain ⟨payer, blank, counted, established, held⟩ := completes.exists_payer codeless room
  have prepared : (prepare rules environment signed.tx accepted charged).nonce accepted.sender =
      payer.nonce := congrArg Account.nonce (World.account_of_get? held)
  have retains : (prepare rules environment signed.tx accepted charged).Retains accepted.sender
      payer := ⟨⟨payer, held, .refl payer⟩, isCreated_prepare completes.charges _⟩
  have unscheduled : (prepare rules environment signed.tx accepted charged).isDestructed
      accepted.sender = false := isDestructed_prepare completes.charges _
  have spares (gas : Nat) : (Attempt.ofTransaction signed.tx accepted.sender gas).SparesNonce
      accepted.sender := by
    rw [Attempt.ofTransaction]
    split <;> trivial
  obtain ⟨remaining, ends⟩ := completes.ends
  have upheld := ends.upheld retains established unscheduled ofTransaction_call
  have same := ends.nonce_eq retains established unscheduled blank (spares _) ofTransaction_call
  have stays : completion.journal.isDestructed accepted.sender = false := by
    apply Bool.eq_false_iff.mpr
    intro scheduled
    exact absurd blank (upheld.scheduled scheduled).1
  have closed := get?_post_of_retains (accepted.setting rules environment) world signed.tx
    upheld.retains established
  rw [stays, if_neg Bool.false_ne_true, ← completes.settles] at closed
  obtain ⟨now, there, continues⟩ := ((upholds_settled (accepted.setting rules environment)
    signed.tx completion).retains upheld.retains).held
  have settled := (sameOccupants_settled (accepted.setting rules environment) signed.tx
    completion).nonce accepted.sender
  rw [Journal.nonce, World.nonce, World.account_of_get? there] at settled
  refine ⟨now, closed.trans there, continues.code.trans blank, ?_⟩
  rw [settled, same, prepared, counted]

end

theorem hasUsed_executeAll {nonce : UInt64} (submissions : List Submission)
    (used : world.HasUsed address nonce) :
    (executeAll world submissions).HasUsed address nonce := by
  induction submissions generalizing world with
  | nil => exact used
  | cons submission rest ih => exact ih (hasUsed_execute used)

/-- A transaction of a sender without code that was executed, with success or not, is rejected ever
after: whatever transactions come in between, at whatever forks and limits and in whatever blocks,
it is refused before anything of it is executed and leaves the world as it is. At once after itself
it is refused for its nonce. -/
theorem executed_never_again (world : World) (first : Submission)
    (room : first.signed.tx.nonce.toNat + 1 < UInt64.size)
    (codeless : ∀ sender, first.signed.sender = .ok sender → (world.account sender).code = [])
    (completed : (first.execute world).isCompleted = true) :
    (∀ between (again : Submission), again.signed = first.signed → ∃ reason,
      again.execute (executeAll (first.execute world).post between) =
        .rejected (executeAll (first.execute world).post between) reason) ∧
    ∀ limits, ({ first with limits } : Submission).execute (first.execute world).post =
      .rejected (first.execute world).post
        (.nonceMismatch (first.signed.tx.nonce + 1) first.signed.tx.nonce) := by
  obtain ⟨accepted, charged, completion, completes⟩ := completes_of_isCompleted completed
  have recovered := completes.accepts.sender
  obtain ⟨sender, there, blank, counted⟩ := completes.exists_sender (codeless _ recovered) room
  have nonce : (first.execute world).post.nonce accepted.sender = first.signed.tx.nonce + 1 :=
    (congrArg Account.nonce (World.account_of_get? there)).trans counted
  have above : first.signed.tx.nonce < first.signed.tx.nonce + 1 := by
    rw [UInt64.lt_iff_toNat_lt, UInt64.toNat_add]
    exact Nat.lt_of_lt_of_eq (Nat.lt_succ_self _) (Nat.mod_eq_of_lt room).symm
  have used : (first.execute world).post.HasUsed accepted.sender first.signed.tx.nonce :=
    ⟨sender, there, blank, counted ▸ above⟩
  constructor
  · intro between again same
    have later := hasUsed_executeAll between used
    rw [← same] at recovered later
    exact exists_rejected recovered later.ne
  · intro limits
    have refused := completes.accepts.validate_of_ne used.ne
    rw [nonce] at refused
    exact execute_of_refused refused

theorem executed_never_again_payment :
    (∃ reason, (⟨.cancun, {}, {}, payment⟩ : Submission).execute
        (executeAll ((⟨.london, {}, {}, payment⟩ : Submission).execute payerWorld).post
          [⟨.berlin, {}, {}, generousCall⟩]) =
      .rejected (executeAll ((⟨.london, {}, {}, payment⟩ : Submission).execute payerWorld).post
          [⟨.berlin, {}, {}, generousCall⟩]) reason) ∧
    (⟨.london, {}, {}, payment⟩ : Submission).execute
        ((⟨.london, {}, {}, payment⟩ : Submission).execute payerWorld).post =
      .rejected ((⟨.london, {}, {}, payment⟩ : Submission).execute payerWorld).post
        (.nonceMismatch 1 0) := by
  have codeless : ∀ sender, payment.sender = .ok sender → (payerWorld.account sender).code = [] := by
    intro sender recovered
    rw [eq_of_payment_sender recovered]
    decide
  have completed : ((⟨.london, {}, {}, payment⟩ : Submission).execute payerWorld).isCompleted =
      true := isCompleted_payment
  have never := executed_never_again payerWorld ⟨.london, {}, {}, payment⟩ (by decide) codeless
    completed
  exact ⟨never.1 _ _ rfl, never.2 {}⟩

end Evm

end StateTransition
