import StateTransition.Proofs.Execution.Funds
import StateTransition.Proofs.Execution.Gas
import StateTransition.Proofs.Execution.Rejection
import StateTransition.Proofs.Fork.Mainnet
import StateTransition.Scenario.TransactionDraft

/-!
What a draft has met once it is signed. Setting up a scenario and executing it check a transaction in
different words; a draft that passes the one can fail the other only in its gas, its fees or the size
of its init code.
-/

namespace StateTransition.Scenario

open Evm (bind_eq_ok eq_ok_of_toOption)

section Results

variable {ε ε' α β : Type}

theorem eq_ok_of_mapError {result : Except ε α} {wrap : ε → ε'} {value : α}
    (mapped : result.mapError wrap = .ok value) : result = .ok value := by
  cases result with
  | error cause => cases mapped
  | ok other => exact congrArg Except.ok (Except.ok.inj mapped)

theorem exists_of_map_eq_ok {result : Except ε α} {change : α → β} {value : β}
    (mapped : result.map change = .ok value) :
    ∃ before, result = .ok before ∧ change before = value := by
  cases result with
  | error cause => cases mapped
  | ok before => exact ⟨before, rfl, Except.ok.inj mapped⟩

end Results

namespace TransactionDraft

variable {draft : TransactionDraft} {allocator : Allocator} {rules : Rules} {chainId : UInt64}
  {sender : Address} {signed : SignedTransaction}

/-- The checks on feature, chain, nonce and funds passed, and the signature is the sender's. -/
structure Checked (draft : TransactionDraft) (allocator : Allocator) (rules : Rules)
    (chainId : UInt64) (sender : Address) (signed : SignedTransaction) : Prop where
  feature : ∀ switch ∈ draft.neededSwitch?, rules.defines switch = true
  chain : draft.commitsToChain = true → draft.chainId.getD chainId = chainId
  funds : draft.checkFunds allocator sender = .ok ()
  tx : signed.tx = draft.transaction (draft.chainId.getD chainId) (allocator.world.nonce sender)
  signer : signed.sender = .ok sender

theorem defines_of_checkFeature (checked : draft.checkFeature rules = .ok ()) :
    ∀ switch ∈ draft.neededSwitch?, rules.defines switch = true := by
  intro switch needed
  rw [checkFeature, Option.mem_def.mp needed] at checked
  simp only [Rules.get] at checked
  rw [Rules.defines]
  cases known : rules.value switch with
  | some value => rfl
  | none =>
    rw [known] at checked
    cases checked

theorem chain_of_checkChain {chain : UInt64} (checked : draft.checkChain chain chainId = .ok ())
    (commits : draft.commitsToChain = true) : chain = chainId := by
  rw [checkChain, commits, Bool.true_and] at checked
  split at checked
  · cases checked
  · rename_i passed
    by_cases same : chain = chainId
    · exact same
    · exact absurd (by simp [same]) passed

theorem nonce_of_checkedNonce {nonce : UInt64}
    (checked : draft.checkedNonce allocator sender = .ok nonce) :
    nonce = allocator.world.nonce sender := by
  simp only [checkedNonce] at checked
  split at checked
  · rename_i same
    cases checked
    exact same
  · cases checked

theorem checkFunds_eq_ok : draft.checkFunds allocator sender = .ok () ↔
    Word.cutOff draft.worstCost ≤ allocator.world.balance sender := by
  rw [checkFunds]
  -- the word that is compared is `cutOff` of the cost, written out
  change (if allocator.world.balance sender < Word.cutOff draft.worstCost then _ else _) = _ ↔ _
  split
  · rename_i short
    exact ⟨nofun, fun enough => absurd short (BitVec.not_lt.mpr enough)⟩
  · rename_i enough
    exact ⟨fun _ => BitVec.not_lt.mp enough, fun _ => rfl⟩

theorem tx_of_sign {tx : Transaction} {key : PrivateKey} (signs : tx.sign key = .ok signed) :
    signed.tx = tx := by
  obtain ⟨signature, _, same⟩ := exists_of_map_eq_ok signs
  rw [← same, Transaction.signedBy]

theorem signed_of_signAs {tx : Transaction} {key : PrivateKey}
    (signs : signAs tx key sender = .ok signed) : signed.tx = tx ∧ signed.sender = .ok sender := by
  simp only [signAs, bind_eq_ok] at signs
  obtain ⟨candidate, made, signer, recovered, checked⟩ := signs
  have signs := tx_of_sign (eq_ok_of_mapError made)
  have recovers := eq_ok_of_mapError recovered
  split at checked
  · rename_i same
    cases checked
    exact ⟨signs, by rw [recovers, same]⟩
  · cases checked

theorem checked_of_complete (completed : draft.complete allocator rules chainId = .ok signed) :
    ∃ sender, draft.sender = some sender ∧
      Checked draft allocator rules chainId sender signed := by
  rw [complete] at completed
  cases known : draft.sender with
  | none =>
    rw [known] at completed
    cases completed
  | some sender =>
    rw [known] at completed
    simp only [bind_eq_ok] at completed
    obtain ⟨_, feature, _, chain, key, _, nonce, current, _, funds, signs⟩ := completed
    obtain ⟨tx, signer⟩ := signed_of_signAs signs
    refine ⟨sender, rfl, ?_⟩
    constructor
    · exact defines_of_checkFeature feature
    · exact chain_of_checkChain chain
    · exact funds
    · rw [tx, nonce_of_checkedNonce current]
    · exact signer

section Parts

variable (draft : TransactionDraft) (chain nonce : UInt64)

theorem maxFee_transaction : (draft.transaction chain nonce).maxFee = draft.highestPrice := by
  simp only [Transaction.maxFee, transaction, kind, highestPrice]
  cases draft.type <;> rfl

theorem chainId_transaction : (draft.transaction chain nonce).chainId =
    if draft.commitsToChain then some chain else none := by
  rw [Transaction.chainId, transaction, kind, commitsToChain]
  cases sort : draft.type with
  | legacy => cases draft.isProtected <;> rfl
  | accessList => rfl
  | dynamicFee => rfl

theorem typeSwitch?_transaction {switch : Param}
    (asked : Evm.typeSwitch? (draft.transaction chain nonce) = some switch) :
    draft.neededSwitch? = some switch := by
  simp only [Evm.typeSwitch?, transaction, kind] at asked
  rw [neededSwitch?]
  cases sort : draft.type with
  | legacy =>
    rw [sort] at asked
    cases asked
  | accessList | dynamicFee =>
    rw [sort] at asked
    exact asked

theorem cost_transaction : Evm.cost (draft.transaction chain nonce) = draft.worstCost := by
  rw [Evm.cost, maxFee_transaction, worstCost, Nat.mul_comm]
  rfl

theorem neededSwitch?_of_isLegacy (legacy : (draft.transaction chain nonce).isLegacy = true)
    (commits : draft.commitsToChain = true) : draft.neededSwitch? = some .replayProtection := by
  simp only [Transaction.isLegacy, Transaction.typeNumber, transaction, kind] at legacy
  rw [commitsToChain] at commits
  rw [neededSwitch?]
  cases sort : draft.type with
  | legacy =>
    rw [sort] at commits
    have guarded : draft.isProtected = true := commits
    simp only [guarded, if_true]
  | accessList | dynamicFee =>
    rw [sort] at legacy
    cases legacy

end Parts

/-- A draft needs no switch that a fork defines and leaves off. -/
theorem isActive_of_needed {fork : Fork} {switch : Param}
    (needed : draft.neededSwitch? = some switch)
    (defined : (Mainnet.rules fork).defines switch = true) :
    (Mainnet.rules fork).isActive switch = true := by
  have kept : ∀ earlier, ∀ one ∈ [Param.replayProtection, .txTypeAccessList, .txTypeDynamicFee],
      (one, 0) ∉ Mainnet.assignments earlier := by
    intro earlier
    cases earlier <;> decide
  have member : switch ∈ [Param.replayProtection, .txTypeAccessList, .txTypeDynamicFee] := by
    rw [neededSwitch?] at needed
    split at needed
    · split at needed
      · cases needed
        decide
      · cases needed
    · cases needed
      decide
    · cases needed
      decide
  exact Mainnet.isActive_of_defines defined fun earlier => kept earlier switch member

namespace Checked

variable {fork : Fork} {environment : Environment}

theorem isActive (checked : Checked draft allocator (Mainnet.rules fork) chainId sender signed)
    {switch : Param} (needed : draft.neededSwitch? = some switch) :
    (Mainnet.rules fork).isActive switch = true :=
  isActive_of_needed needed (checked.feature switch needed)

theorem checkType (checked : Checked draft allocator (Mainnet.rules fork) chainId sender signed) :
    (Evm.typeSwitch? signed.tx).all (Mainnet.rules fork).isActive = true := by
  cases asked : Evm.typeSwitch? signed.tx with
  | none => rfl
  | some switch =>
    rw [checked.tx] at asked
    exact checked.isActive (typeSwitch?_transaction draft _ _ asked)

theorem checkChain (checked : Checked draft allocator (Mainnet.rules fork) chainId sender signed)
    (same : environment.chainId = chainId) :
    Evm.checkChain (Mainnet.rules fork) environment signed.tx = .ok () := by
  rw [Evm.checkChain, checked.tx, chainId_transaction]
  cases commits : draft.commitsToChain with
  | false => rfl
  | true =>
    have protection (legacy : (draft.transaction (draft.chainId.getD chainId)
        (allocator.world.nonce sender)).isLegacy = true) :
        (Mainnet.rules fork).isActive .replayProtection = true :=
      checked.isActive (neededSwitch?_of_isLegacy draft _ _ legacy commits)
    have chain : draft.chainId.getD chainId = environment.chainId :=
      (checked.chain commits).trans same.symm
    simp only [if_true, Evm.bind_eq_ok, Evm.check_eq_ok]
    refine ⟨(), ?_, beq_iff_eq.mpr chain⟩
    rw [Bool.or_eq_true, Bool.not_eq_true']
    exact (Bool.eq_false_or_eq_true _).symm.imp_right protection

theorem worstCost_le (checked : Checked draft allocator rules chainId sender signed) :
    Evm.worstCost signed.tx ≤ allocator.world.balance sender := by
  rw [checked.tx, Evm.worstCost_eq_cutOff, cost_transaction]
  exact checkFunds_eq_ok.mp checked.funds

theorem isFunded (checked : Checked draft allocator (Mainnet.rules fork) chainId sender signed)
    (same : environment.chainId = chainId) :
    Evm.IsFunded (Mainnet.rules fork) allocator.world environment signed sender where
  type := checked.checkType
  chain := checked.checkChain same
  signer := checked.signer
  nonce := by
    rw [checked.tx]
    rfl
  funds := checked.worstCost_le

end Checked

/-- A draft that was completed for a fork of the main network is signed by its sender, and in every
environment of its chain it is accepted or rejected for its terms. -/
theorem completed_validates_but_for_terms {fork : Fork}
    (completed : draft.complete allocator (Mainnet.rules fork) chainId = .ok signed) :
    (∃ sender, draft.sender = some sender ∧ signed.sender = .ok sender) ∧
      ∀ environment : Environment, environment.chainId = chainId →
        (∃ accepted, Evm.validate (Mainnet.rules fork) allocator.world environment signed =
          .ok accepted) ∨
        ∃ rejection, Evm.validate (Mainnet.rules fork) allocator.world environment signed =
          .error rejection ∧ rejection.concernsTerms = true := by
  obtain ⟨sender, known, checked⟩ := checked_of_complete completed
  constructor
  · exact ⟨sender, known, checked.signer⟩
  · intro environment same
    cases answer : Evm.validate (Mainnet.rules fork) allocator.world environment signed with
    | ok accepted => exact .inl ⟨accepted, rfl⟩
    | error rejection => exact .inr ⟨rejection, rfl, (checked.isFunded same).concernsTerms answer⟩

end TransactionDraft

def payerAddress : Address := ⟨0x7e5f4552091a69125d5dfcb7b8c2659029395bdf#160⟩

def payer : Allocator where
  world := Evm.payerWorld
  keys := SortedMap.ofList [(payerAddress, ⟨1, by decide, by decide⟩)]

def cappedPayment : TransactionDraft where
  type := .dynamicFee
  sender := some payerAddress
  recipient := some ⟨0x2000#160⟩
  value := 5#256
  maxPriorityFee := 2#256

def signedPayment : SignedTransaction where
  tx := cappedPayment.transaction 1 0
  v := 0
  r := ⟨0xb48eaa93ea2940fb12ebc28897881ad0ea0827bb70a501bb1e73becb90cc61bc#256⟩
  s := ⟨0x7ba87d821ce90271850985dfd0a2d548543a1d12c252fe3dca015ec66e5e3242#256⟩

theorem complete_cappedPayment :
    cappedPayment.complete payer (Mainnet.rules .london) 1 = .ok signedPayment := by
  apply eq_ok_of_toOption
  rw [Mainnet.rules_eq_readOff]
  decide +kernel

theorem completed_validates_but_for_terms_capped :
    cappedPayment.complete payer (Mainnet.rules .london) 1 = .ok signedPayment ∧
      (∃ sender, cappedPayment.sender = some sender ∧ signedPayment.sender = .ok sender) ∧
      ∀ environment : Environment, environment.chainId = 1 →
        (∃ accepted, Evm.validate (Mainnet.rules .london) payer.world environment signedPayment =
          .ok accepted) ∨
        ∃ rejection, Evm.validate (Mainnet.rules .london) payer.world environment signedPayment =
          .error rejection ∧ rejection.concernsTerms = true :=
  ⟨complete_cappedPayment, TransactionDraft.completed_validates_but_for_terms complete_cappedPayment⟩

end StateTransition.Scenario
