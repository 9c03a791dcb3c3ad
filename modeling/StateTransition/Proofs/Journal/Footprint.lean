import StateTransition.Proofs.Journal.Warmth

/-!
The footprint of what was done to a journal: the accounts and the slots that are not as they were. It
is within the warm sets where only warm accounts and warm slots are written to, and what is warm stays
so; the storage of accounts that are created meanwhile is left out.
-/

namespace StateTransition.Evm.Journal

/-- An account is as it was, and closing the journal would do to it what it would have done. -/
structure SameAt (address : Address) (before after : Journal) : Prop where
  account : after.account? address = before.account? address
  touched : after.touched.contains address = before.touched.contains address
  destructed : after.isDestructed address = before.isDestructed address

namespace SameAt

variable {address other : Address} {before middle after : Journal}

theorem trans (first : SameAt address before middle) (second : SameAt address middle after) :
    SameAt address before after where
  account := second.account.trans first.account
  touched := second.touched.trans first.touched
  destructed := second.destructed.trans first.destructed

theorem of_eq (world : after.world = before.world) (touched : after.touched = before.touched)
    (destructed : after.destructed = before.destructed) : SameAt address before after where
  account := by rw [account?, world, account?]
  touched := by rw [touched]
  destructed := by rw [isDestructed, destructed, isDestructed]

theorem refl (journal : Journal) : SameAt address journal journal := of_eq rfl rfl rfl

theorem of_update {change : Account → Account} (records : SameRecords before after)
    (world : after.world = before.world.update other change) (different : other ≠ address) :
    SameAt address before after where
  account := by rw [account?, world, World.get?_update, if_neg different, account?]
  touched := by rw [records.touched]
  destructed := by rw [isDestructed, records.destructed, isDestructed]

end SameAt

theorem sameAt_setBalance (journal : Journal) {address other : Address} (balance : Word)
    (different : address ≠ other) : SameAt other journal (journal.setBalance address balance) :=
  .of_update (sameRecords_setBalance journal address balance)
    (world_setBalance journal address balance) different

theorem sameAt_touch (journal : Journal) {address other : Address} (different : address ≠ other) :
    SameAt other journal (journal.touch address) := by
  rw [touch]
  split
  · exact .refl journal
  · exact ⟨rfl, SortedSet.contains_add_of_ne different, rfl⟩

theorem sameAt_markDestructed (journal : Journal) {address other : Address}
    (different : address ≠ other) : SameAt other journal (journal.markDestructed address).2 := by
  rw [markDestructed]
  split
  · exact .refl journal
  · exact ⟨rfl, rfl, SortedSet.contains_add_of_ne different⟩

theorem isCreated_createAccount (journal : Journal) (address other : Address) (nonce : UInt64) :
    (journal.createAccount address nonce).isCreated other =
      (decide (address = other) || journal.isCreated other) := by
  have marked (replaced : Journal) : (if replaced.created.contains address then replaced
      else { replaced with created := replaced.created.add address }.record
        (.createdInTransaction address)).isCreated other =
      (decide (address = other) || replaced.isCreated other) := by
    by_cases same : address = other
    · subst same
      rw [decide_eq_true rfl, Bool.true_or]
      split
      · assumption
      · exact SortedSet.contains_add_self _ address
    · rw [decide_eq_false same, Bool.false_or]
      split
      · rfl
      · exact SortedSet.contains_add_of_ne same
  rw [createAccount, marked]
  split <;> rfl

theorem sameAt_createAccount (journal : Journal) {address other : Address} (nonce : UInt64)
    (different : address ≠ other) : SameAt other journal (journal.createAccount address nonce) := by
  have held : (journal.createAccount address nonce).account? other = journal.account? other := by
    rw [account?, world_createAccount, World.get?_insert, if_neg different, account?]
  obtain ⟨world, created, changes, creates⟩ := exists_createAccount_eq journal address nonce
  rw [creates] at held ⊢
  exact ⟨held, rfl, rfl⟩

/-- Whatever changed is warm, and so are the slots that changed, but for the storage of accounts that
are new. -/
structure ChangesWarm (before after : Journal) : Prop where
  stays : StaysWarm before after
  cold : ∀ address, after.isWarm address = false → SameAt address before after
  created : ∀ address, before.isCreated address = true → after.isCreated address = true
  slot : ∀ address key, after.isCreated address = false →
    after.warmSlots.contains (address, key) = false → after.slot address key = before.slot address key

namespace ChangesWarm

variable {before middle after : Journal} {address : Address}

theorem trans (first : ChangesWarm before middle) (second : ChangesWarm middle after) :
    ChangesWarm before after where
  stays := first.stays.trans second.stays
  cold address cold := by
    have colder : middle.isWarm address = false :=
      Bool.eq_false_iff.mpr fun warm => by simp [second.stays.accounts address warm] at cold
    exact (first.cold address colder).trans (second.cold address cold)
  created address made := second.created address (first.created address made)
  slot address key old cold := by
    have older : middle.isCreated address = false :=
      Bool.eq_false_iff.mpr fun made => by simp [second.created address made] at old
    have colder : middle.warmSlots.contains (address, key) = false :=
      Bool.eq_false_iff.mpr fun warm => by simp [second.stays.slots _ warm] at cold
    exact (second.slot address key old cold).trans (first.slot address key older colder)

theorem of_warm (stays : StaysWarm before after) (warm : before.isWarm address = true)
    (elsewhere : ∀ other, address ≠ other → SameAt other before after)
    (created : ∀ other, before.isCreated other = true → after.isCreated other = true)
    (slot : ∀ key, after.isCreated address = false →
      after.warmSlots.contains (address, key) = false →
      after.slot address key = before.slot address key) : ChangesWarm before after where
  stays := stays
  cold other cold := by
    apply elsewhere
    rintro rfl
    simp [stays.accounts address warm] at cold
  created := created
  slot other key old cold := by
    by_cases same : address = other
    · subst same
      exact slot key old cold
    · have held : after.world.get? other = before.world.get? other := (elsewhere other same).account
      rw [Journal.slot, World.slot, World.account, held]
      rfl

theorem of_eq (world : after.world = before.world)
    (warmAccounts : after.warmAccounts = before.warmAccounts)
    (warmSlots : after.warmSlots = before.warmSlots) (touched : after.touched = before.touched)
    (created : after.created = before.created) (destructed : after.destructed = before.destructed) :
    ChangesWarm before after where
  stays := .of_eq warmAccounts warmSlots
  cold address _ := .of_eq world touched destructed
  created address made := by rwa [isCreated, created]
  slot address key _ _ := by rw [Journal.slot, world, Journal.slot]

theorem refl (journal : Journal) : ChangesWarm journal journal := of_eq rfl rfl rfl rfl rfl rfl

theorem of_warms (warms : Warms before after) : ChangesWarm before after where
  stays := .of_warms warms
  cold address _ := .of_eq warms.world warms.touched warms.destructed
  created address made := by rwa [isCreated, warms.created]
  slot address key _ _ := by rw [Journal.slot, warms.world, Journal.slot]

theorem of_update {change : Account → Account} (records : SameRecords before after)
    (world : after.world = before.world.update address change)
    (warm : before.isWarm address = true)
    (slots : ∀ key, before.warmSlots.contains (address, key) = false →
      (change (before.world.account address)).slot key = before.slot address key) :
    ChangesWarm before after := by
  apply of_warm (.of_sameRecords records) warm
  · intro other different
    exact .of_update records world different
  · intro other made
    rwa [isCreated, records.created]
  · intro key _ cold
    rw [records.warmSlots] at cold
    rw [Journal.slot, World.slot, world, World.account_update, if_pos rfl, slots key cold]

end ChangesWarm

section Writes

variable (journal : Journal) {address : Address}

theorem changesWarm_addRefund (amount : Int) : ChangesWarm journal (journal.addRefund amount) := by
  rw [addRefund]
  split
  · exact .refl journal
  · exact .of_eq rfl rfl rfl rfl rfl rfl

variable (warm : journal.isWarm address = true)

include warm

theorem changesWarm_touch : ChangesWarm journal (journal.touch address) := by
  obtain ⟨touched, changes, touches⟩ := exists_touch_eq journal address
  apply ChangesWarm.of_warm (staysWarm_touch journal address) warm
  · intro other different
    exact sameAt_touch journal different
  · intro other made
    rwa [touches]
  · intro key _ _
    rw [touches]
    rfl

theorem changesWarm_markDestructed :
    ChangesWarm journal (journal.markDestructed address).2 := by
  apply ChangesWarm.of_warm (staysWarm_markDestructed journal address) warm
  · intro other different
    exact sameAt_markDestructed journal different
  · intro other made
    rw [markDestructed]
    split <;> exact made
  · intro key _ _
    rw [markDestructed]
    split <;> rfl

theorem changesWarm_ensure : ChangesWarm journal (journal.ensure address) :=
  .of_update (sameRecords_ensure journal address) (world_ensure journal address) warm
    fun _ _ => rfl

theorem changesWarm_setBalance (balance : Word) :
    ChangesWarm journal (journal.setBalance address balance) :=
  .of_update (sameRecords_setBalance journal address balance)
    (world_setBalance journal address balance) warm fun _ _ => rfl

theorem changesWarm_bumpNonce : ChangesWarm journal (journal.bumpNonce address) :=
  .of_update (sameRecords_bumpNonce journal address) (world_bumpNonce journal address) warm
    fun _ _ => rfl

theorem changesWarm_setCode (code : Bytes) : ChangesWarm journal (journal.setCode address code) :=
  .of_update (sameRecords_setCode journal address code) (world_setCode journal address code) warm
    fun _ _ => rfl

theorem changesWarm_setSlot {key : Word} (value : Word)
    (accessed : journal.warmSlots.contains (address, key) = true) :
    ChangesWarm journal (journal.setSlot address key value) := by
  apply ChangesWarm.of_update (sameRecords_setSlot journal address key value)
    (world_setSlot journal address key value) warm
  intro other cold
  rw [Account.slot, Account.setSlot, Slots.get_set, if_neg]
  · rfl
  · intro same
    rw [← Key.rank_injective same, accessed] at cold
    cases cold

theorem changesWarm_createAccount (nonce : UInt64) :
    ChangesWarm journal (journal.createAccount address nonce) := by
  apply ChangesWarm.of_warm (staysWarm_createAccount journal address nonce) warm
  · intro other different
    exact sameAt_createAccount journal nonce different
  · intro other made
    rw [isCreated_createAccount, made, Bool.or_true]
  · intro key old _
    simp [isCreated_createAccount] at old

theorem changesWarm_move {recipient : Address} (amount : Word)
    (receives : journal.isWarm recipient = true) :
    ChangesWarm journal (journal.move address recipient amount) := by
  have debited : ChangesWarm journal (journal.debit address amount) :=
    changesWarm_setBalance journal warm _
  have paid : ChangesWarm journal ((journal.debit address amount).addBalance recipient amount) :=
    debited.trans (changesWarm_setBalance _ (debited.stays.accounts _ receives) _)
  have touched := paid.trans (changesWarm_touch _ (paid.stays.accounts _ warm))
  exact touched.trans (changesWarm_touch _ (touched.stays.accounts _ receives))

end Writes

/-- What is changed is warm as long as two accounts are. -/
def ChangesWarmBetween (address beneficiary : Address) (before after : Journal) : Prop :=
  before.isWarm address = true → before.isWarm beneficiary = true → ChangesWarm before after

theorem changesWarmBetween_closeAccount (rules : Rules) (address beneficiary : Address)
    (journal : Journal) : ChangesWarmBetween address beneficiary journal
      (Exec.closeAccount rules address beneficiary journal) := by
  apply rel_closeAccount
  · intro start _ _
    exact .refl start
  · intro before middle after first second closed paid
    have changes := first closed paid
    exact changes.trans (second (changes.stays.accounts _ closed) (changes.stays.accounts _ paid))
  · intro start _ _
    exact changesWarm_addRefund start _
  · intro start amount _ paid
    exact changesWarm_setBalance start paid _
  · intro start closed _
    exact changesWarm_setBalance start closed _
  · intro start _ paid
    exact changesWarm_touch start paid
  · intro start closed _
    exact changesWarm_markDestructed start closed

end StateTransition.Evm.Journal
