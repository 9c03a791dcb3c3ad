import StateTransition.Evm.Validation

namespace StateTransition.Evm

/-- The checks on type, chain, sender, nonce, gas, fees, init code and funds all passed. -/
structure Accepts (rules : Rules) (world : World) (environment : Environment)
    (signed : SignedTransaction) (accepted : Accepted) : Prop where
  type : (typeSwitch? signed.tx).all rules.isActive = true
  chain : checkChain rules environment signed.tx = .ok ()
  sender : signed.sender = .ok accepted.sender
  nonce : signed.tx.nonce = world.nonce accepted.sender
  intrinsic : accepted.intrinsic = signed.tx.intrinsicGas rules
  intrinsic_le : accepted.intrinsic ≤ signed.tx.gasLimit.toNat
  limit_le : signed.tx.gasLimit.toNat ≤ environment.gasLimit.toNat
  baseFee_le : rules.isActive .baseFee = true → environment.baseFee ≤ signed.tx.maxFee
  tip : tipWithinCap signed.tx = true
  price : signed.tx.effectiveGasPrice
    (if rules.isActive .baseFee then environment.baseFee else 0#256) = some accepted.gasPrice
  initCode : checkInitCode rules signed.tx = .ok ()
  funds : worstCost signed.tx ≤ world.balance accepted.sender

theorem eq_ok_of_toOption {ε α : Type} {result : Except ε α} {value : α}
    (known : result.toOption = some value) : result = .ok value := by
  cases result with
  | error cause => cases known
  | ok other => exact congrArg Except.ok (Option.some.inj known)

theorem bind_eq_ok {ε α β : Type} {action : Except ε α} {next : α → Except ε β} {result : β} :
    (action >>= next) = .ok result ↔ ∃ answer, action = .ok answer ∧ next answer = .ok result := by
  cases action <;> simp [bind, Except.bind]

theorem check_eq_ok {condition : Bool} {rejection : Rejection} {answer : Unit} :
    check condition rejection = .ok answer ↔ condition = true := by
  cases condition <;> simp [check]

variable {rules : Rules} {world : World} {environment : Environment} {tx : Transaction}
  {signed : SignedTransaction} {accepted : Accepted}

theorem intrinsic_of_checkGas {intrinsic : Nat}
    (checked : checkGas rules environment tx = .ok intrinsic) :
    intrinsic = tx.intrinsicGas rules ∧ intrinsic ≤ tx.gasLimit.toNat ∧
      tx.gasLimit.toNat ≤ environment.gasLimit.toNat := by
  simp only [checkGas, bind_eq_ok, check_eq_ok, decide_eq_true_eq] at checked
  obtain ⟨_, enough, _, fits, same⟩ := checked
  cases same
  exact ⟨rfl, enough, fits⟩

theorem price_of_checkFees {price : Word} (checked : checkFees rules environment tx = .ok price) :
    (rules.isActive .baseFee = true → environment.baseFee ≤ tx.maxFee) ∧
      tipWithinCap tx = true ∧
      tx.effectiveGasPrice (if rules.isActive .baseFee then environment.baseFee else 0#256) =
        some price := by
  simp only [checkFees, bind_eq_ok, check_eq_ok] at checked
  obtain ⟨_, cap, _, tip, found⟩ := checked
  split at found
  · rename_i priced effective
    cases found
    refine ⟨?_, tip, effective⟩
    intro active
    simpa [active] using cap
  · cases found

theorem accepts_of_validate (validated : validate rules world environment signed = .ok accepted) :
    Accepts rules world environment signed accepted := by
  simp only [validate, bind_eq_ok, check_eq_ok] at validated
  obtain ⟨_, type, _, chain, sender, recovered, _, nonce, intrinsic, gas, price, fees, _, initCode, _,
    funds, same⟩ := validated
  have known : signed.sender = .ok sender := by
    cases found : signed.sender with
    | error cause =>
      rw [found] at recovered
      cases recovered
    | ok address =>
      rw [found] at recovered
      cases recovered
      rfl
  obtain ⟨intrinsicEq, intrinsicLe, limitLe⟩ := intrinsic_of_checkGas gas
  obtain ⟨cap, tip, effective⟩ := price_of_checkFees fees
  cases same
  constructor
  · exact check_eq_ok.mp type
  · exact chain
  · exact known
  · simpa using nonce
  · exact intrinsicEq
  · exact intrinsicLe
  · exact limitLe
  · exact cap
  · exact tip
  · exact effective
  · exact initCode
  · simpa using funds

end StateTransition.Evm
