import StateTransition.Proofs.Execution.Settlement
import StateTransition.Proofs.Execution.Termination
import StateTransition.Proofs.FrameStack.Identity

namespace StateTransition.Evm

open FrameStack

variable {rules : Rules} {limits : Limits} {world : World} {environment : Environment}
  {signed : SignedTransaction} {accepted : Accepted} {charged : Journal} {completion : Completion}
  {address : Address} {account : Account}

theorem ofTransaction_call {tx : Transaction} {sender : Address} {gas : Nat}
    {request : CallRequest} (calls : Attempt.ofTransaction tx sender gas = .call request) :
    request.address = request.codeAddress := by
  rw [Attempt.ofTransaction] at calls
  split at calls
  · cases calls
    rfl
  · cases calls

theorem upholds_prepare {tx : Transaction} (charges : charge world tx accepted = .ok charged) :
    Journal.Upholds address account (.start world)
      (prepare rules environment tx accepted charged) := by
  rw [(debit_of_charge charges).2]
  exact ((Journal.upholds_setBalance _ _ _).trans (Journal.upholds_bumpNonce _ _)).trans
    (.of_warms (Journal.warms_prewarm _ rules environment tx accepted.sender _))

theorem Completes.upheld
    (completes : Completes rules limits world environment signed accepted charged completion)
    (held : world.get? address = some account) (established : account.Established) :
    Upheld (accepted.setting rules environment)
      (.ofTransaction signed.tx accepted.sender (signed.tx.gasLimit.toNat - accepted.intrinsic))
      (prepare rules environment signed.tx accepted charged) address account
      completion.journal := by
  have start : (Journal.start world).Retains address account :=
    ⟨⟨account, held, .refl account⟩, rfl⟩
  have upholds : Journal.Upholds address account (.start world)
      (prepare rules environment signed.tx accepted charged) := upholds_prepare completes.charges
  obtain ⟨remaining, ends⟩ := completes.ends
  exact ends.upheld (upholds.retains start) established (upholds.destructed start) ofTransaction_call

theorem get?_settleFees (setting : Setting) (world : World) (tx : Transaction)
    (retains : completion.journal.Retains address account) (established : account.Established) :
    if completion.journal.isDestructed address then
      (settleFees setting world tx completion).post.get? address = none
    else
      ∃ now, (settleFees setting world tx completion).post.get? address = some now ∧
        account.Continues now := by
  have upholds : Journal.Upholds address account completion.journal (completion.settled setting tx) :=
    upholds_settled setting tx completion
  have closed := get?_post_of_retains setting world tx retains established
  split
  · rename_i scheduled
    rw [if_pos scheduled] at closed
    exact closed
  · rename_i unscheduled
    rw [if_neg unscheduled] at closed
    rw [closed]
    exact (upholds.retains retains).held

theorem Completes.continues_or_schedules
    (completes : Completes rules limits world environment signed accepted charged completion)
    (held : world.get? address = some account) (established : account.Established) :
    (∃ now, (execute rules limits world environment signed).post.get? address = some now ∧
      account.Continues now) ∨
    ((execute rules limits world environment signed).post.get? address = none ∧
      account.code ≠ [] ∧ rules.isActive .selfdestructSameTxOnly = false ∧
      completion.journal.isDestructed address = true ∧
      SchedulesItself (accepted.setting rules environment)
        (.ofTransaction signed.tx accepted.sender (signed.tx.gasLimit.toNat - accepted.intrinsic))
        (prepare rules environment signed.tx accepted charged) address) := by
  have upheld := completes.upheld held established
  have closed := get?_settleFees (accepted.setting rules environment) world signed.tx
    upheld.retains established
  rw [← completes.settles] at closed
  cases scheduled : completion.journal.isDestructed address with
  | false =>
    rw [scheduled] at closed
    exact .inl closed
  | true =>
    rw [scheduled] at closed
    obtain ⟨coded, early, schedules⟩ := upheld.scheduled scheduled
    exact .inr ⟨closed, coded, early, rfl, schedules⟩

/-- At every fork of the main network an account that had a nonce or code before a transaction has
the same code after it, a nonce that is not smaller and, without code, the same storage. The only
exception are accounts with code before Cancun: such an account is gone if a frame that acted as
the account came to the instruction that schedules it for deletion, and that was not undone. -/
theorem established_account_continues (fork : Fork) (limits : Limits) (world : World)
    (environment : Environment) (signed : SignedTransaction) (address : Address) (account : Account)
    (held : world.get? address = some account) (established : account.Established) :
    (∃ now, (execute (Mainnet.rules fork) limits world environment signed).post.get? address =
      some now ∧ account.Continues now) ∨
    ((execute (Mainnet.rules fork) limits world environment signed).post.get? address = none ∧
      account.code ≠ [] ∧ fork < Fork.cancun ∧
      ∃ accepted charged completion,
        Completes (Mainnet.rules fork) limits world environment signed accepted charged completion ∧
        completion.journal.isDestructed address = true ∧
        SchedulesItself (accepted.setting (Mainnet.rules fork) environment)
          (.ofTransaction signed.tx accepted.sender
            (signed.tx.gasLimit.toNat - accepted.intrinsic))
          (prepare (Mainnet.rules fork) environment signed.tx accepted charged) address) := by
  have sameOnly := Mainnet.isActive_selfdestructSameTxOnly fork
  generalize Mainnet.rules fork = rules at sameOnly ⊢
  rcases execute_cases rules limits world environment signed with
    ⟨_, unchanged⟩ | ⟨accepted, charged, completion, completes⟩
  · rw [unchanged]
    exact .inl ⟨account, held, .refl account⟩
  · rcases completes.continues_or_schedules held established with continues | closes
    · exact .inl continues
    · obtain ⟨gone, coded, early, scheduled, schedules⟩ := closes
      rw [sameOnly] at early
      have before : fork < Fork.cancun := Nat.lt_of_not_le (of_decide_eq_false early)
      exact .inr ⟨gone, coded, before, accepted, charged, completion, completes, scheduled,
        schedules⟩

/-- An account whose code closes it. -/
def closingAccount : Account := { balance := 3#256, code := [0x60, 0x00, 0xff] }

def closingWorld : World :=
  .ofList
    [(⟨0x2000#160⟩, closingAccount),
     (⟨0x7e5f4552091a69125d5dfcb7b8c2659029395bdf#160⟩, { balance := 1000000#256 })]

theorem established_account_continues_closing :
    closingWorld.get? ⟨0x2000#160⟩ = some closingAccount ∧ closingAccount.Established ∧
    (execute (Mainnet.rules .berlin) {} closingWorld {} generousCall).post.get? ⟨0x2000#160⟩ =
      none ∧
    ∃ accepted charged completion,
      Completes (Mainnet.rules .berlin) {} closingWorld {} generousCall accepted charged
        completion ∧
      SchedulesItself (accepted.setting (Mainnet.rules .berlin) {})
        (.ofTransaction generousCall.tx accepted.sender
          (generousCall.tx.gasLimit.toNat - accepted.intrinsic))
        (prepare (Mainnet.rules .berlin) {} generousCall.tx accepted charged) ⟨0x2000#160⟩ := by
  have held : closingWorld.get? ⟨0x2000#160⟩ = some closingAccount := by decide
  have established : closingAccount.Established := .inr (by decide)
  have gone : (execute (Mainnet.rules .berlin) {} closingWorld {} generousCall).post.get?
      ⟨0x2000#160⟩ = none := by
    rw [Mainnet.rules_eq_readOff, execute, validate, sender_generousCall]
    decide
  refine ⟨held, established, gone, ?_⟩
  rcases established_account_continues .berlin {} closingWorld {} generousCall ⟨0x2000#160⟩
    closingAccount held established with ⟨now, there, _⟩ | ⟨_, _, _, closes⟩
  · rw [gone] at there
    cases there
  · obtain ⟨accepted, charged, completion, completes, _, schedules⟩ := closes
    exact ⟨accepted, charged, completion, completes, schedules⟩

end StateTransition.Evm
