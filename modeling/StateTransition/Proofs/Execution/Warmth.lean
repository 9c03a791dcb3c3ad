import StateTransition.Proofs.Execution.Outcome
import StateTransition.Proofs.FrameStack.Static
import StateTransition.Proofs.FrameStack.Warmth
import StateTransition.Proofs.Fork.Mainnet
import StateTransition.Proofs.Instruction.Accesses

/-!
What a transaction may access at the price of a warm access from the start, and until its end. Frames
that fail make cold again what they warmed themselves, and never what was warm before they began.
-/

namespace StateTransition.Evm

open FrameStack

/-- What a transaction warms before it runs at a fork that prices accesses. -/
inductive Prewarmed (fork : Fork) (environment : Environment) (tx : Transaction)
    (sender : Address) : Access → Prop where
  | sender : Prewarmed fork environment tx sender (.account sender)
  | recipient {address : Address} (calls : tx.recipient = some address) :
      Prewarmed fork environment tx sender (.account address)
  | created (creates : tx.recipient = none) :
      Prewarmed fork environment tx sender (.account (createAddress sender tx.nonce))
  | precompile (contract : Precompile) :
      Prewarmed fork environment tx sender (.account contract.address)
  | listed {item : AccessListItem} (member : item ∈ tx.accessList) :
      Prewarmed fork environment tx sender (.account item.address)
  | listedKey {item : AccessListItem} {key : Hash256} (member : item ∈ tx.accessList)
      (listed : key ∈ item.storageKeys) :
      Prewarmed fork environment tx sender (.slot item.address key.toWord)
  | coinbase (shanghai : Fork.shanghai ≤ fork) :
      Prewarmed fork environment tx sender (.account environment.coinbase)

theorem pricesAccesses_mainnet {fork : Fork} (berlin : Fork.berlin ≤ fork) :
    (Mainnet.rules fork).PricesAccesses :=
  ⟨(Mainnet.defines_coldAccountAccess fork).trans (decide_eq_true berlin),
    (Mainnet.defines_coldSload fork).trans (decide_eq_true berlin)⟩

theorem Access.isWarm_foldl {α : Type} {write : Journal → α → Journal} {items : List α} {item : α}
    {access : Access} (warms : ∀ journal item, Journal.Warms journal (write journal item))
    (member : item ∈ items) (makes : ∀ journal, access.isWarm (write journal item) = true)
    (journal : Journal) : access.isWarm (items.foldl write journal) = true := by
  induction items generalizing journal with
  | nil => cases member
  | cons first rest ih =>
    rcases List.mem_cons.mp member with same | later
    · rw [List.foldl_cons, ← same]
      exact (Journal.StaysWarm.of_warms (.foldl warms rest _)).isWarm (makes journal)
    · exact ih later _

theorem isWarm_warmAccounts {addresses : List Address} {address : Address}
    (member : address ∈ addresses) (journal : Journal) :
    (warmAccounts journal addresses).isWarm address = true := by
  have warmed : (Access.account address).isWarm (warmAccounts journal addresses) = true := by
    apply Access.isWarm_foldl Journal.warms_warmAccount member
    intro start
    exact Journal.isWarm_warmAccount start address
  exact warmed

theorem isWarm_warmItem (journal : Journal) (item : AccessListItem) :
    (warmItem journal item).isWarm item.address = true := by
  have kept : Journal.StaysWarm (journal.warmAccount item.address).2 (warmItem journal item) :=
    .of_warms (.foldl (fun start key => Journal.warms_warmSlot start item.address key.toWord)
      item.storageKeys _)
  exact kept.accounts item.address (Journal.isWarm_warmAccount journal item.address)

theorem isWarm_warmItem_key (journal : Journal) {item : AccessListItem} {key : Hash256}
    (listed : key ∈ item.storageKeys) :
    (Access.slot item.address key.toWord).isWarm (warmItem journal item) = true := by
  apply Access.isWarm_foldl (fun start key => Journal.warms_warmSlot start _ key.toWord) listed
  intro start
  exact Journal.contains_warmSlot start item.address key.toWord

variable {fork : Fork} {rules : Rules} {environment : Environment} {tx : Transaction}
  {accepted : Accepted} {access : Access}

theorem Prewarmed.isWarm_prepare (priced : rules.defines .coldAccountAccess = true)
    (early : rules.isActive .warmCoinbase = decide (Fork.shanghai ≤ fork)) (charged : Journal)
    (prewarmed : Prewarmed fork environment tx accepted.sender access) :
    access.isWarm (prepare rules environment tx accepted charged) = true := by
  rw [prepare, prewarm, if_pos priced]
  generalize known : warmAccounts _ _ = start
  have last (journal : Journal) : Journal.StaysWarm journal
      (if rules.isActive .warmCoinbase then (journal.warmAccount environment.coinbase).2
      else journal) := by
    split
    · exact .of_warms (Journal.warms_warmAccount journal _)
    · exact .refl journal
  have items : Journal.StaysWarm start (tx.accessList.foldl warmItem start) :=
    .of_warms (.foldl Journal.warms_warmItem tx.accessList start)
  have parties {address : Address} (member : address ∈ accepted.sender ::
      tx.recipient.getD (createAddress accepted.sender tx.nonce) ::
      Precompile.all.map Precompile.address) : start.isWarm address = true := by
    rw [← known]
    exact isWarm_warmAccounts member _
  cases prewarmed with
  | sender => exact (items.trans (last _)).accounts _ (parties (by simp))
  | recipient calls => exact (items.trans (last _)).accounts _ (parties (by simp [calls]))
  | created creates => exact (items.trans (last _)).accounts _ (parties (by simp [creates]))
  | precompile contract =>
    have provided : contract ∈ Precompile.all := by cases contract <;> decide
    have named := List.mem_map_of_mem (f := Precompile.address) provided
    exact (items.trans (last _)).accounts _ (parties (by simp [named]))
  | listed member =>
    apply (last _).isWarm (Access.isWarm_foldl Journal.warms_warmItem member _ start)
    intro journal
    exact isWarm_warmItem journal _
  | listedKey member listed =>
    apply (last _).isWarm (Access.isWarm_foldl Journal.warms_warmItem member _ start)
    intro journal
    exact isWarm_warmItem_key journal listed
  | coinbase shanghai =>
    rw [if_pos (early.trans (decide_eq_true shanghai))]
    exact Journal.isWarm_warmAccount _ environment.coinbase

/-- From Berlin on everything a transaction warms at its start is warm wherever its run comes to, and
in every journal a frame leaves behind, also one that failed, at any depth. So an instruction that
accesses nothing else is never charged the price of a first access: it does the same, with the same
gas, whatever first accesses cost. -/
theorem prewarmed_stay_warm (fork : Fork) (berlin : Fork.berlin ≤ fork) (environment : Environment)
    (tx : Transaction) (accepted : Accepted) (gas : Nat) (charged : Journal) :
    let setting := accepted.setting (Mainnet.rules fork) environment
    let attempt := Attempt.ofTransaction tx accepted.sender gas
    let prepared := prepare (Mainnet.rules fork) environment tx accepted charged
    (∀ access, Prewarmed fork environment tx accepted.sender access →
      access.isWarm prepared = true ∧
      (∀ stack openings, Underway setting attempt prepared stack openings →
        access.isWarm stack.journal = true) ∧
      ∀ opened remaining result left next,
        Ends setting attempt prepared opened remaining result left next →
        access.isWarm left = true) ∧
    ∀ stack openings, Underway setting attempt prepared stack openings →
      (∀ access ∈ stack.machine.access?, Prewarmed fork environment tx accepted.sender access) →
      ∀ account slot, stack.machine.step (setting.withColdPrices account slot) =
        stack.machine.step setting := by
  have priced : (Mainnet.rules fork).PricesAccesses := pricesAccesses_mainnet berlin
  have early := Mainnet.isActive_warmCoinbase fork
  generalize Mainnet.rules fork = rules at priced early ⊢
  intro setting attempt prepared
  have start {access : Access} (prewarmed : Prewarmed fork environment tx accepted.sender access) :
      access.isWarm prepared = true := prewarmed.isWarm_prepare priced.accounts early charged
  constructor
  · intro access prewarmed
    refine ⟨start prewarmed, ?_, ?_⟩
    · intro stack openings underway
      exact underway.staysWarm.isWarm (start prewarmed)
    · intro opened remaining result left next ends
      exact ends.staysWarm.isWarm (start prewarmed)
  · intro stack openings underway accesses account slot
    have same : Exec.step (setting.withColdPrices account slot) stack.machine =
        Exec.step setting stack.machine := by
      apply Exec.step_withColdPrices account slot priced
      intro access accessed
      exact underway.staysWarm.isWarm (start (accesses access accessed))
    rw [Machine.step_eq, Machine.advance, same, ← Machine.advance, ← Machine.step_eq]

/-- A contract calls another one, which looks at the balance of the coinbase and fails. -/
def lookingWorld : World :=
  .ofList
    [(⟨0x2000#160⟩,
      { code :=
          [0x60, 0x00, 0x60, 0x00, 0x60, 0x00, 0x60, 0x00, 0x60, 0x00, 0x61, 0x30, 0x00, 0x61, 0xff,
           0xff, 0xf1, 0x41, 0x31] }),
     (⟨0x3000#160⟩, { code := [0x41, 0x31, 0xfe] })]

theorem prewarmed_stay_warm_looking :
    let setting := Accepted.setting ⟨⟨0x10#160⟩, 21000, 10#256⟩ (Mainnet.rules .shanghai) {}
    let attempt := Attempt.ofTransaction callOfReader ⟨0x10#160⟩ 100000
    let prepared := prepare (Mainnet.rules .shanghai) {} callOfReader
      ⟨⟨0x10#160⟩, 21000, 10#256⟩ (.start lookingWorld)
    Fork.berlin ≤ Fork.shanghai ∧ ∃ stack openings,
      Underway setting attempt prepared stack openings ∧
      stack.machine.access? = some (.account ({} : Environment).coinbase) ∧
      stack.journal.isWarm ({} : Environment).coinbase = true ∧
      ∀ account slot, stack.machine.step (setting.withColdPrices account slot) =
        stack.machine.step setting := by
  intro setting attempt prepared
  have seen : (reach setting attempt prepared 12).map (fun reached => reached.1.machine.access?) =
      some (some (.account ({} : Environment).coinbase)) := by
    simp only [setting, prepared, Mainnet.rules_eq_readOff]
    decide +kernel
  obtain ⟨⟨stack, openings⟩, reaches, accessed⟩ := Option.map_eq_some_iff.mp seen
  have underway := underway_of_reach reaches
  have berlin : Fork.berlin ≤ Fork.shanghai := by decide
  obtain ⟨warm, same⟩ := prewarmed_stay_warm .shanghai berlin {} callOfReader
    ⟨⟨0x10#160⟩, 21000, 10#256⟩ 100000 (.start lookingWorld)
  have prewarmed : Prewarmed .shanghai {} callOfReader ⟨0x10#160⟩
      (.account ({} : Environment).coinbase) := .coinbase (by decide)
  refine ⟨berlin, stack, openings, underway, accessed, (warm _ prewarmed).2.1 _ _ underway, ?_⟩
  apply same stack openings underway
  intro access named
  rw [accessed] at named
  cases named
  exact prewarmed

end StateTransition.Evm
