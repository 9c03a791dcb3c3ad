import StateTransition.Evm.Execution
import StateTransition.Proofs.World.Lookup

namespace StateTransition.Evm

namespace Journal

/-- Nothing differs but the world and the list of changes. -/
structure SameRecords (before after : Journal) : Prop where
  initial : after.initial = before.initial
  warmAccounts : after.warmAccounts = before.warmAccounts
  warmSlots : after.warmSlots = before.warmSlots
  transient : after.transient = before.transient
  touched : after.touched = before.touched
  created : after.created = before.created
  destructed : after.destructed = before.destructed
  logs : after.logs = before.logs
  refund : after.refund = before.refund

namespace SameRecords

variable {before middle after : Journal}

theorem refl (journal : Journal) : SameRecords journal journal :=
  ⟨rfl, rfl, rfl, rfl, rfl, rfl, rfl, rfl, rfl⟩

theorem trans (first : SameRecords before middle) (second : SameRecords middle after) :
    SameRecords before after where
  initial := second.initial.trans first.initial
  warmAccounts := second.warmAccounts.trans first.warmAccounts
  warmSlots := second.warmSlots.trans first.warmSlots
  transient := second.transient.trans first.transient
  touched := second.touched.trans first.touched
  created := second.created.trans first.created
  destructed := second.destructed.trans first.destructed
  logs := second.logs.trans first.logs
  refund := second.refund.trans first.refund

end SameRecords

variable (journal : Journal) (address : Address)

theorem sameRecords_ensure : SameRecords journal (journal.ensure address) := by
  rw [ensure]
  split
  · exact .refl journal
  · exact ⟨rfl, rfl, rfl, rfl, rfl, rfl, rfl, rfl, rfl⟩

theorem sameRecords_setBalance (balance : Word) :
    SameRecords journal (journal.setBalance address balance) :=
  (sameRecords_ensure journal address).trans ⟨rfl, rfl, rfl, rfl, rfl, rfl, rfl, rfl, rfl⟩

theorem sameRecords_addBalance (amount : Word) :
    SameRecords journal (journal.addBalance address amount) :=
  sameRecords_setBalance journal address _

theorem sameRecords_bumpNonce : SameRecords journal (journal.bumpNonce address) :=
  (sameRecords_ensure journal address).trans ⟨rfl, rfl, rfl, rfl, rfl, rfl, rfl, rfl, rfl⟩

theorem sameRecords_setCode (code : Bytes) : SameRecords journal (journal.setCode address code) :=
  (sameRecords_ensure journal address).trans ⟨rfl, rfl, rfl, rfl, rfl, rfl, rfl, rfl, rfl⟩

theorem sameRecords_setSlot (key value : Word) :
    SameRecords journal (journal.setSlot address key value) :=
  (sameRecords_ensure journal address).trans ⟨rfl, rfl, rfl, rfl, rfl, rfl, rfl, rfl, rfl⟩

theorem exists_touch_eq : ∃ touched changes,
    journal.touch address = { journal with touched, changes } := by
  rw [touch]
  split
  · exact ⟨journal.touched, journal.changes, rfl⟩
  · exact ⟨_, _, rfl⟩

theorem exists_createAccount_eq (nonce : UInt64) : ∃ world created changes,
    journal.createAccount address nonce = { journal with world, created, changes } := by
  rw [createAccount]
  split <;> split <;> exact ⟨_, _, _, rfl⟩

theorem world_touch : (journal.touch address).world = journal.world := by
  obtain ⟨touched, changes, touches⟩ := exists_touch_eq journal address
  rw [touches]

theorem destructed_addRefund (amount : Int) :
    (journal.addRefund amount).destructed = journal.destructed := by
  rw [addRefund]
  split <;> rfl

theorem le_balance_of_payable {journal : Journal} {address : Address} {amount : Word}
    (payable : journal.cannotPay address amount = false) :
    amount.toNat ≤ (journal.balance address).toNat := by
  simpa [cannotPay, BitVec.lt_def] using payable

theorem world_ensure : (journal.ensure address).world = journal.world.update address id := by
  rw [ensure]
  split
  · rename_i present
    exact (World.update_of_eq present rfl).symm
  · rename_i absent
    have missing : journal.world.contains address = false := by simpa [contains] using absent
    rw [World.update, World.account_of_not_contains missing]
    rfl

theorem account_ensure (other : Address) :
    (journal.ensure address).world.account other = journal.world.account other := by
  rw [world_ensure, World.account_update]
  split
  · rename_i same
    rw [same]
    rfl
  · rfl

theorem world_ensure_update (change : Account → Account) :
    (journal.ensure address).world.update address change = journal.world.update address change := by
  rw [world_ensure, World.update_update]
  rfl

theorem world_setBalance (balance : Word) :
    (journal.setBalance address balance).world =
      journal.world.update address ({ · with balance := balance }) :=
  world_ensure_update journal address ({ · with balance := balance })

theorem world_debit (amount : Word) :
    (journal.debit address amount).world = journal.world.update address
      fun account => { account with balance := account.balance - amount } := by
  rw [debit, world_setBalance]
  exact World.update_congr _ _ rfl

theorem world_addBalance {journal : Journal} {address : Address} {amount : Word}
    (fits : (journal.balance address).toNat + amount.toNat < Word.modulus) :
    (journal.addBalance address amount).world = journal.world.update address fun account =>
      { account with balance := Word.ofNat (account.balance.toNat + amount.toNat) } := by
  rw [addBalance, world_setBalance]
  apply World.update_congr
  rw [if_pos fits]
  rfl

theorem world_setCode (code : Bytes) :
    (journal.setCode address code).world =
      journal.world.update address ({ · with code := code }) :=
  world_ensure_update journal address ({ · with code := code })

theorem world_setSlot (key value : Word) :
    (journal.setSlot address key value).world =
      journal.world.update address (·.setSlot key value) :=
  world_ensure_update journal address (·.setSlot key value)

theorem world_bumpNonce :
    (journal.bumpNonce address).world =
      journal.world.update address
        (fun account => { account with nonce := nextNonce account.nonce }) := by
  have ensured : (journal.ensure address).nonce address = (journal.world.account address).nonce := by
    rw [nonce, World.nonce, account_ensure]
  have bumped : (journal.bumpNonce address).world = journal.world.update address
      (fun account => { account with nonce := nextNonce ((journal.ensure address).nonce address) }) :=
    world_ensure_update journal address
      (fun account => { account with nonce := nextNonce ((journal.ensure address).nonce address) })
  rw [bumped, ensured]
  rfl

theorem world_createAccount (nonce : UInt64) :
    (journal.createAccount address nonce).world =
      journal.world.insert address { balance := journal.balance address, nonce } := by
  have marked (replaced : Journal) :
      (if replaced.created.contains address then replaced
        else { replaced with created := replaced.created.add address }.record
          (.createdInTransaction address)).world = replaced.world := by
    split <;> rfl
  rw [createAccount, marked]
  cases held : journal.account? address with
  | some previous =>
    have same : journal.balance address = previous.balance := by
      rw [balance, World.balance, World.account, ← account?, held]
      rfl
    rw [same]
    rfl
  | none =>
    have nothing : journal.balance address = 0#256 := by
      rw [balance, World.balance, World.account, ← account?, held]
      rfl
    rw [nothing]
    rfl

/-- Nothing differs but the warm sets, which may have grown, and the list of changes. -/
structure Warms (before after : Journal) : Prop where
  world : after.world = before.world
  initial : after.initial = before.initial
  transient : after.transient = before.transient
  touched : after.touched = before.touched
  created : after.created = before.created
  destructed : after.destructed = before.destructed
  logs : after.logs = before.logs
  refund : after.refund = before.refund
  accounts : ∀ address, before.warmAccounts.contains address = true →
    after.warmAccounts.contains address = true
  slots : ∀ slot, before.warmSlots.contains slot = true → after.warmSlots.contains slot = true

namespace Warms

variable {before middle after : Journal}

theorem refl (journal : Journal) : Warms journal journal :=
  ⟨rfl, rfl, rfl, rfl, rfl, rfl, rfl, rfl, fun _ warm => warm, fun _ warm => warm⟩

theorem trans (first : Warms before middle) (second : Warms middle after) : Warms before after where
  world := second.world.trans first.world
  initial := second.initial.trans first.initial
  transient := second.transient.trans first.transient
  touched := second.touched.trans first.touched
  created := second.created.trans first.created
  destructed := second.destructed.trans first.destructed
  logs := second.logs.trans first.logs
  refund := second.refund.trans first.refund
  accounts address warm := second.accounts address (first.accounts address warm)
  slots slot warm := second.slots slot (first.slots slot warm)

theorem foldl {α : Type} {write : Journal → α → Journal}
    (warms : ∀ journal item, Warms journal (write journal item)) (items : List α)
    (journal : Journal) : Warms journal (items.foldl write journal) := by
  induction items generalizing journal with
  | nil => exact .refl journal
  | cons item rest ih => exact (warms journal item).trans (ih _)

end Warms

theorem warms_warmAccount : Warms journal (journal.warmAccount address).2 := by
  rw [warmAccount]
  split
  · exact .refl journal
  · exact ⟨rfl, rfl, rfl, rfl, rfl, rfl, rfl, rfl,
      fun _ warm => SortedSet.contains_add_of_contains address warm, fun _ warm => warm⟩

theorem warms_warmSlot (key : Word) : Warms journal (journal.warmSlot address key).2 := by
  rw [warmSlot]
  split
  · exact .refl journal
  · exact ⟨rfl, rfl, rfl, rfl, rfl, rfl, rfl, rfl, fun _ warm => warm,
      fun _ warm => SortedSet.contains_add_of_contains (address, key) warm⟩

theorem warms_warmItem (item : AccessListItem) : Warms journal (warmItem journal item) :=
  (warms_warmAccount journal item.address).trans
    (.foldl (fun start key => warms_warmSlot start item.address key.toWord) item.storageKeys _)

theorem warms_prewarm (rules : Rules) (environment : Environment) (tx : Transaction)
    (sender target : Address) :
    Warms journal (prewarm rules environment tx sender target journal) := by
  have coinbase (start : Journal) : Warms start
      (if rules.isActive .warmCoinbase then (start.warmAccount environment.coinbase).2
      else start) := by
    split
    · exact warms_warmAccount start _
    · exact .refl start
  apply Warms.trans _ (coinbase _)
  split
  · exact (Warms.foldl warms_warmAccount _ journal).trans (.foldl warms_warmItem tx.accessList _)
  · exact .refl journal

theorem warms_warmTarget (rules : Rules) : Warms journal (warmTarget rules journal address) := by
  rw [warmTarget]
  split
  · exact warms_warmAccount journal address
  · exact .refl journal

section Closing

variable {relation : Journal → Journal → Prop} {rules : Rules} {address beneficiary : Address}
  (refl : ∀ journal, relation journal journal)
  (trans : ∀ {before middle after}, relation before middle → relation middle after →
    relation before after)
  (refunds : ∀ journal,
    relation journal (addRefund journal (Gas.signed (rules.amount .selfdestructRefund))))
  (pays : ∀ journal amount, relation journal (addBalance journal beneficiary amount))
  (empties : ∀ journal, relation journal (setBalance journal address 0#256))
  (touches : ∀ journal, relation journal (touch journal beneficiary))

include refl trans refunds pays empties touches

theorem exists_closeAccount_eq (journal : Journal) :
    ∃ paid : Journal, relation journal paid ∧
      Exec.closeAccount rules address beneficiary journal =
        if !rules.isActive .selfdestructSameTxOnly || journal.isCreated address then
          (paid.markDestructed address).2
        else paid := by
  have refunded (credits : Prop) [Decidable credits] : relation journal
      (if credits then journal.addRefund (Gas.signed (rules.amount .selfdestructRefund))
      else journal) := by
    split
    · exact refunds journal
    · exact refl journal
  have emptied (start : Journal) (destroys : Prop) [Decidable destroys] : relation start
      (if beneficiary ≠ address then
        (start.addBalance beneficiary (start.balance address)).setBalance address 0#256
      else if destroys then start.setBalance address 0#256
      else start) := by
    split
    · exact trans (pays start _) (empties _)
    · split
      · exact empties start
      · exact refl start
  exact ⟨_, trans (trans (refunded _) (emptied _ _)) (touches _), rfl⟩

theorem rel_closeAccount (marks : ∀ journal, relation journal (markDestructed journal address).2)
    (journal : Journal) :
    relation journal (Exec.closeAccount rules address beneficiary journal) := by
  obtain ⟨paid, pays, closes⟩ :=
    exists_closeAccount_eq refl trans refunds pays empties touches journal
  rw [closes]
  split
  · exact trans pays (marks paid)
  · exact pays

end Closing

theorem get?_eraseIfEmpty (world : World) (key address : Address) :
    (eraseIfEmpty world key).get? address =
      if key = address ∧ (world.get? address).any Account.isEmpty then none
      else world.get? address := by
  rw [eraseIfEmpty]
  by_cases same : key = address
  · subst same
    by_cases empty : (world.get? key).any Account.isEmpty
    · rw [if_pos empty, if_pos ⟨rfl, empty⟩, World.get?_erase, if_pos rfl]
    · rw [if_neg empty, if_neg fun both => empty both.2]
  · have kept : (world.erase key).get? address = world.get? address := by
      rw [World.get?_erase, if_neg same]
    rw [apply_ite (World.get? · address), kept, ite_self]
    simp [same]

theorem get?_foldl_eraseIfEmpty (world : World) (keys : List Address) (address : Address) :
    (keys.foldl eraseIfEmpty world).get? address =
      if address ∈ keys ∧ (world.get? address).any Account.isEmpty then none
      else world.get? address := by
  induction keys generalizing world with
  | nil => simp
  | cons key rest ih =>
    rw [List.foldl_cons, ih, get?_eraseIfEmpty]
    by_cases empty : (world.get? address).any Account.isEmpty
    · by_cases same : key = address
      · simp [same, empty]
      · simp [same, Ne.symm same, empty]
    · simp [empty]

theorem get?_finish (journal : Journal) (cleanup : Bool) (address : Address) :
    (journal.finish cleanup).1.get? address =
      if journal.isDestructed address = true ∨ cleanup = true ∧
          journal.touched.contains address = true ∧
          (journal.account? address).any Account.isEmpty = true then none
      else journal.account? address := by
  have deleted : (journal.destructed.keys.foldl World.erase journal.world).get? address =
      if journal.isDestructed address then none else journal.account? address := by
    rw [World.get?_foldl_erase]
    simp only [← SortedMap.contains_iff_mem_keys]
    rfl
  have swept : (journal.touched.keys.foldl eraseIfEmpty
      (journal.destructed.keys.foldl World.erase journal.world)).get? address =
      if journal.isDestructed address = true ∨ journal.touched.contains address = true ∧
          (journal.account? address).any Account.isEmpty = true then none
      else journal.account? address := by
    rw [get?_foldl_eraseIfEmpty, deleted]
    simp only [← SortedMap.contains_iff_mem_keys]
    by_cases scheduled : journal.isDestructed address
    · simp [scheduled]
    · simp [scheduled]
  rw [finish]
  cases cleanup with
  | false => simpa using deleted
  | true => simpa using swept

end Journal

end StateTransition.Evm
