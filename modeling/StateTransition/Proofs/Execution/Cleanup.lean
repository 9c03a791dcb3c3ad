import StateTransition.Proofs.Execution.Gas
import StateTransition.Proofs.Execution.Identity
import StateTransition.Proofs.Execution.Preparation
import StateTransition.Proofs.FrameStack.Cleanup

namespace StateTransition.Evm

open FrameStack

variable {rules : Rules} {limits : Limits} {world : World} {environment : Environment}
  {signed : SignedTransaction} {tx : Transaction} {accepted : Accepted} {charged : Journal}
  {completion : Completion}

theorem tidies_prepare (charges : charge world tx accepted = .ok charged) :
    (Journal.start world).Tidies (prepare rules environment tx accepted charged) := by
  constructor
  · intro address member
    cases member
  · intro address account _ held empty
    rw [Journal.account?, world_prepare charges, World.get?_update] at held
    split at held
    · cases held
      simp [Account.isEmpty, Journal.nextNonce_ne_zero] at empty
    · exact .inr held

theorem nonce_prepare_ne_zero (charges : charge world tx accepted = .ok charged) :
    (prepare rules environment tx accepted charged).nonce accepted.sender ≠ 0 := by
  have held : (prepare rules environment tx accepted charged).world.get? accepted.sender =
      some _ := account?_prepare_sender charges
  rw [Journal.nonce, World.nonce, World.account_of_get? held]
  exact Journal.nextNonce_ne_zero _

theorem tidies_settled (setting : Setting) (tx : Transaction)
    (used : completion.journal.nonce setting.origin ≠ 0) :
    completion.journal.Tidies (completion.settled setting tx) := by
  have paid (start : Journal) (amount : Word) : start.TidiesBut (· = setting.environment.coinbase)
      ((start.addBalance setting.environment.coinbase amount).touch setting.environment.coinbase) := by
    apply Journal.TidiesBut.trans _ (Journal.tidiesBut_touch _ _)
    exact Journal.tidiesBut_setBalance start _ (.inl rfl)
  have repaid (amount : Word) : completion.journal.Tidies
      (completion.journal.addBalance setting.origin amount) :=
    Journal.tidiesBut_setBalance _ _ (.inr (Journal.isOccupied_of_nonce used))
  apply (((repaid _).mono fun _ never => never.elim).trans (paid _ _)).tidies
  rintro other rfl
  exact Journal.contains_touch _ _

theorem get?_of_isEmpty_post
    (completes : Completes rules limits world environment signed accepted charged completion)
    (cleanup : rules.isActive .emptyAccountCleanup = true) {address : Address} {account : Account}
    (held : (execute rules limits world environment signed).post.get? address = some account)
    (empty : account.isEmpty = true) : world.get? address = some account := by
  have fresh : freshNonce (accepted.setting rules environment).rules ≠ 0 := by
    have cleans : (accepted.setting rules environment).rules.isActive .emptyAccountCleanup = true :=
      cleanup
    rw [freshNonce, if_pos cleans]
    decide
  have prepared : (Journal.start world).Tidies (prepare rules environment signed.tx accepted charged) :=
    tidies_prepare completes.charges
  have counted : (prepare rules environment signed.tx accepted charged).nonce accepted.sender ≠ 0 :=
    nonce_prepare_ne_zero completes.charges
  obtain ⟨remaining, ends⟩ := completes.ends
  obtain ⟨ran, endures⟩ := ends.tidies fresh ofTransaction_call
  have settled := tidies_settled (accepted.setting rules environment) signed.tx
    (endures.nonce _ counted)
  have tidies := (prepared.trans ran).trans settled
  rw [completes.settles, post_settleFees_eq_finish] at held
  have closes : (accepted.setting rules environment).rules.isActive .emptyAccountCleanup = true :=
    cleanup
  rw [closes] at held
  obtain ⟨untouched, kept⟩ := Journal.account?_of_finish held empty
  rcases tidies.empty id kept empty with touched | there
  · rw [untouched] at touched
    cases touched
  · exact there

/-- From Byzantium on, whatever a transaction does and however it ends: an account that is empty
after it was there before, just as it is. -/
theorem no_empty_account_left (fork : Fork) (byzantium : Fork.byzantium ≤ fork) (limits : Limits)
    (world : World) (environment : Environment) (signed : SignedTransaction) (address : Address)
    (account : Account)
    (held : (execute (Mainnet.rules fork) limits world environment signed).post.get? address =
      some account)
    (empty : account.isEmpty = true) : world.get? address = some account := by
  have cleanup : (Mainnet.rules fork).isActive .emptyAccountCleanup = true :=
    (Mainnet.isActive_emptyAccountCleanup fork).trans (decide_eq_true byzantium)
  generalize Mainnet.rules fork = rules at cleanup held
  rcases execute_cases rules limits world environment signed with
    ⟨_, unchanged⟩ | ⟨accepted, charged, completion, completes⟩
  · rwa [unchanged] at held
  · exact get?_of_isEmpty_post completes cleanup held empty

def emptyAccountWorld : World :=
  .ofList
    [(⟨0x5000#160⟩, {}),
     (⟨0x7e5f4552091a69125d5dfcb7b8c2659029395bdf#160⟩, { balance := 210008#256 })]

theorem no_empty_account_left_payment :
    Fork.byzantium ≤ Fork.london ∧
    (execute (Mainnet.rules .london) {} emptyAccountWorld {} payment).isCompleted = true ∧
    (execute (Mainnet.rules .london) {} emptyAccountWorld {} payment).post.get? ⟨0x5000#160⟩ =
      some {} ∧
    ({} : Account).isEmpty = true ∧ emptyAccountWorld.get? ⟨0x5000#160⟩ = some {} := by
  have byzantium : Fork.byzantium ≤ Fork.london := by decide
  have run : ((execute (Mainnet.rules .london) {} emptyAccountWorld {} payment).isCompleted,
      (execute (Mainnet.rules .london) {} emptyAccountWorld {} payment).post.get? ⟨0x5000#160⟩) =
      (true, some {}) := by
    rw [Mainnet.rules_eq_readOff, execute, validate, sender_payment]
    decide
  obtain ⟨completed, held⟩ := Prod.mk.inj run
  have empty : ({} : Account).isEmpty = true := by decide
  exact ⟨byzantium, completed, held, empty,
    no_empty_account_left .london byzantium {} emptyAccountWorld {} payment _ _ held empty⟩

end StateTransition.Evm
