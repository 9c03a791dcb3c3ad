import StateTransition.Proofs.Execution.Validation

namespace StateTransition.Evm

/-- Concerns the gas limit, the fees or the size of init code, and not the type, the chain, the
sender, the nonce or the funds. -/
def Rejection.concernsTerms : Rejection → Bool
  | intrinsicGasTooLow .. | blockGasLimitExceeded .. | feeCapTooLow .. | tipAboveFeeCap
  | initCodeTooLarge .. => true
  | _ => false

theorem bind_eq_error {ε α β : Type} {action : Except ε α} {next : α → Except ε β} {cause : ε} :
    (action >>= next) = .error cause ↔
      action = .error cause ∨ ∃ answer, action = .ok answer ∧ next answer = .error cause := by
  cases action <;> simp [bind, Except.bind]

theorem error_of_ok_bind {ε α β : Type} {action : Except ε α} {next : α → Except ε β}
    {answer : α} {cause : ε} (passed : action = .ok answer)
    (failed : (action >>= next) = .error cause) : next answer = .error cause := by
  rw [passed] at failed
  exact failed

theorem check_eq_error {condition : Bool} {rejection cause : Rejection} :
    check condition rejection = .error cause ↔ condition = false ∧ rejection = cause := by
  cases condition <;> simp [check]

variable {rules : Rules} {world : World} {environment : Environment} {tx : Transaction}
  {signed : SignedTransaction} {sender : Address} {rejection : Rejection}

theorem concernsTerms_of_checkGas (rejected : checkGas rules environment tx = .error rejection) :
    rejection.concernsTerms = true := by
  simp only [checkGas, bind_eq_error, check_eq_error] at rejected
  rcases rejected with ⟨_, low⟩ | ⟨_, _, ⟨_, high⟩ | ⟨_, _, finished⟩⟩
  · rw [← low]
    rfl
  · rw [← high]
    rfl
  · cases finished

theorem concernsTerms_of_checkFees (rejected : checkFees rules environment tx = .error rejection) :
    rejection.concernsTerms = true := by
  simp only [checkFees, bind_eq_error, check_eq_error] at rejected
  rcases rejected with ⟨_, low⟩ | ⟨_, _, ⟨_, tip⟩ | ⟨_, _, priced⟩⟩
  · rw [← low]
    rfl
  · rw [← tip]
    rfl
  · split at priced
    · cases priced
    · cases priced
      rfl

theorem concernsTerms_of_checkInitCode (rejected : checkInitCode rules tx = .error rejection) :
    rejection.concernsTerms = true := by
  rw [checkInitCode] at rejected
  split at rejected
  · rw [← (check_eq_error.mp rejected).2]
    rfl
  · cases rejected

/-- Type, chain, sender, nonce and funds are in order. -/
structure IsFunded (rules : Rules) (world : World) (environment : Environment)
    (signed : SignedTransaction) (sender : Address) : Prop where
  type : (typeSwitch? signed.tx).all rules.isActive = true
  chain : checkChain rules environment signed.tx = .ok ()
  signer : signed.sender = .ok sender
  nonce : signed.tx.nonce = world.nonce sender
  funds : worstCost signed.tx ≤ world.balance sender

theorem IsFunded.concernsTerms (funded : IsFunded rules world environment signed sender)
    (rejected : validate rules world environment signed = .error rejection) :
    rejection.concernsTerms = true := by
  have type : checkType rules signed.tx = .ok () := check_eq_ok.mpr funded.type
  have signer : signed.sender.mapError Rejection.invalidSender = .ok sender := by
    rw [funded.signer]
    rfl
  have nonce (cause : Rejection) : check (signed.tx.nonce == world.nonce sender) cause = .ok () :=
    check_eq_ok.mpr (beq_iff_eq.mpr funded.nonce)
  have funds (cause : Rejection) :
      check (worstCost signed.tx ≤ world.balance sender) cause = .ok () :=
    check_eq_ok.mpr (decide_eq_true funded.funds)
  rw [validate] at rejected
  have rejected := error_of_ok_bind type rejected
  have rejected := error_of_ok_bind funded.chain rejected
  have rejected := error_of_ok_bind signer rejected
  have rejected := error_of_ok_bind (nonce _) rejected
  rcases bind_eq_error.mp rejected with gas | ⟨_, _, rejected⟩
  · exact concernsTerms_of_checkGas gas
  rcases bind_eq_error.mp rejected with fees | ⟨_, _, rejected⟩
  · exact concernsTerms_of_checkFees fees
  rcases bind_eq_error.mp rejected with initCode | ⟨_, _, rejected⟩
  · exact concernsTerms_of_checkInitCode initCode
  · cases error_of_ok_bind (funds _) rejected

end StateTransition.Evm
