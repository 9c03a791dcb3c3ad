import StateTransition.Proofs.Journal.Undo

namespace StateTransition.SortedSet

variable {κ : Type} [Key κ]

theorem erase_add {set : SortedSet κ} {key : κ} (absent : ¬ set.contains key) :
    (set.add key).erase key = set := by
  apply SortedMap.erase_insert
  simpa [SortedMap.contains] using absent

end StateTransition.SortedSet

namespace StateTransition.World

theorem get?_of_contains {world : World} {address : Address} (present : world.contains address) :
    world.get? address = some (world.account address) := by
  obtain ⟨account, held⟩ := Option.isSome_iff_exists.mp present
  rw [World.account, held]
  rfl

theorem erase_insert {world : World} {address : Address} (account : Account)
    (absent : ¬ world.contains address) : (world.insert address account).erase address = world := by
  have missing : world.accounts.get? address = none := by simpa [contains, get?] using absent
  simp [insert, erase, SortedMap.erase_insert _ missing]

theorem insert_insert_of_get? {world : World} {address : Address} {account : Account}
    (held : world.get? address = some account) (other : Account) :
    (world.insert address other).insert address account = world := by
  have unchanged : world.accounts.insert address account = world.accounts :=
    SortedMap.insert_of_get? held
  simp [insert, SortedMap.insert_insert, unchanged]

end StateTransition.World

namespace StateTransition.Evm.Journal

variable (journal : Journal) (address : Address)

theorem adjust_update {world : World} {address : Address} {change restore : Account → Account}
    (present : world.contains address)
    (restores : restore (change (world.account address)) = world.account address) :
    adjust (world.update address change) address restore = world := by
  have held := World.get?_of_contains present
  have changed : (world.update address change).get? address =
      some (change (world.account address)) := by
    simp [World.update, World.insert, World.get?]
  rw [adjust, changed]
  simp only [restores]
  exact World.insert_insert_of_get? held _

theorem contains_ensure : (journal.ensure address).world.contains address := by
  rw [ensure]
  split
  · assumption
  · simp [record, World.insert, World.contains, World.get?]

theorem extends_warmAccount : Extends journal (journal.warmAccount address).2 := by
  rw [warmAccount]
  split
  · exact .refl journal
  · rename_i cold
    refine .record rfl rfl ?_
    simp only [undo, SortedSet.erase_add cold]

theorem extends_warmSlot (key : Word) : Extends journal (journal.warmSlot address key).2 := by
  rw [warmSlot]
  split
  · exact .refl journal
  · rename_i cold
    refine .record rfl rfl ?_
    simp only [undo, SortedSet.erase_add cold]

theorem extends_touch : Extends journal (journal.touch address) := by
  rw [touch]
  split
  · exact .refl journal
  · rename_i untouched
    refine .record rfl rfl ?_
    simp only [undo, SortedSet.erase_add untouched]

theorem extends_ensure : Extends journal (journal.ensure address) := by
  rw [ensure]
  split
  · exact .refl journal
  · rename_i absent
    refine .record rfl rfl ?_
    simp only [undo, World.erase_insert _ absent]

theorem extends_setBalance (balance : Word) :
    Extends journal (journal.setBalance address balance) := by
  refine (extends_ensure journal address).trans (.record rfl rfl ?_)
  simp only [undo]
  rw [adjust_update (contains_ensure journal address) rfl]

theorem extends_addBalance (amount : Word) : Extends journal (journal.addBalance address amount) :=
  extends_setBalance journal address _

theorem extends_move (sender recipient : Address) (amount : Word) :
    Extends journal (journal.move sender recipient amount) := by
  refine .trans ?_ (extends_touch _ recipient)
  refine .trans ?_ (extends_touch _ sender)
  exact (extends_setBalance journal sender _).trans (extends_addBalance _ recipient amount)

theorem extends_bumpNonce : Extends journal (journal.bumpNonce address) := by
  refine (extends_ensure journal address).trans (.record rfl rfl ?_)
  simp only [undo]
  rw [adjust_update (contains_ensure journal address) rfl]

theorem extends_setCode (code : Bytes) : Extends journal (journal.setCode address code) := by
  refine (extends_ensure journal address).trans (.record rfl rfl ?_)
  simp only [undo]
  rw [adjust_update (contains_ensure journal address) rfl]

theorem extends_setSlot (key value : Word) : Extends journal (journal.setSlot address key value) := by
  refine (extends_ensure journal address).trans (.record rfl rfl ?_)
  simp only [undo]
  rw [adjust_update (contains_ensure journal address)]
  simp only [Account.setSlot, slot, World.slot, Account.slot, Slots.set_set_get]

theorem extends_setTransientSlot (key value : Word) :
    Extends journal (journal.setTransientSlot address key value) := by
  refine .record rfl rfl ?_
  simp only [undo, transientSlot, Slots.set_set_get]

theorem extends_createAccount (nonce : UInt64) :
    Extends journal (journal.createAccount address nonce) := by
  have fresh (replaced : Journal) : Extends replaced
      (if replaced.created.contains address then replaced
      else { replaced with created := replaced.created.add address }.record
        (.createdInTransaction address)) := by
    split
    · exact .refl replaced
    · rename_i first
      refine .record rfl rfl ?_
      simp only [undo, SortedSet.erase_add first]
  rw [createAccount]
  refine .trans ?_ (fresh _)
  cases held : journal.account? address with
  | some previous =>
    refine .record rfl rfl ?_
    simp only [undo, World.insert_insert_of_get? held]
  | none =>
    have absent : ¬ journal.world.contains address := by
      rw [account?] at held
      simp [World.contains, held]
    refine .record rfl rfl ?_
    simp only [undo, World.erase_insert _ absent]

theorem extends_markDestructed : Extends journal (journal.markDestructed address).2 := by
  rw [markDestructed]
  split
  · exact .refl journal
  · rename_i first
    refine .record rfl rfl ?_
    simp only [undo, SortedSet.erase_add first]

theorem extends_addRefund (amount : Int) : Extends journal (journal.addRefund amount) := by
  rw [addRefund]
  split
  · exact .refl journal
  · exact .record rfl rfl rfl

theorem extends_emit (log : Log) : Extends journal (journal.emit log) where
  longer := Nat.le_refl _
  undone := by
    simp only [emit, Nat.sub_self]
    rfl
  logged := by simp [emit]

end StateTransition.Evm.Journal
