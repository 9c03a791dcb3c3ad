import StateTransition.Proofs.Journal.Records

namespace StateTransition

/-- An account that goes on from an earlier one: with the same code, a nonce that did not go back
and, without code, the same storage. -/
structure Account.Continues (account now : Account) : Prop where
  code : now.code = account.code
  nonce : account.nonce ≤ now.nonce
  storage : account.code = [] → now.storage = account.storage

/-- An account with a nonce or with code, which no creation replaces. -/
def Account.Established (account : Account) : Prop := account.nonce ≠ 0 ∨ account.code ≠ []

namespace Account

variable {account now : Account}

theorem Continues.refl (account : Account) : account.Continues account :=
  ⟨rfl, UInt64.le_refl _, fun _ => rfl⟩

theorem Established.continues (established : account.Established)
    (continues : account.Continues now) : now.Established := by
  rcases established with counted | coded
  · left
    intro zero
    have bound := continues.nonce
    rw [zero] at bound
    exact counted (UInt64.le_zero_iff.mp bound)
  · right
    rw [continues.code]
    exact coded

theorem Established.isEmpty_eq (established : account.Established) : account.isEmpty = false := by
  rcases established with counted | coded
  · simp [isEmpty, counted]
  · simp [isEmpty, coded]

end Account

namespace Evm.Journal

theorem le_nextNonce (nonce : UInt64) : nonce ≤ nextNonce nonce := by
  rw [nextNonce]
  split
  · rename_i room
    rw [UInt64.le_iff_toNat_le, UInt64.toNat_add]
    have sum : (nonce.toNat + (1 : UInt64).toNat) % 2 ^ 64 = nonce.toNat + 1 :=
      Nat.mod_eq_of_lt room
    omega
  · exact UInt64.le_refl _

/-- The account at an address goes on from an earlier one, and was not created since. -/
structure Retains (address : Address) (account : Account) (journal : Journal) : Prop where
  held : ∃ now, journal.account? address = some now ∧ account.Continues now
  created : journal.isCreated address = false

theorem Retains.isOccupied_eq {address : Address} {account : Account} {journal : Journal}
    (retains : journal.Retains address account) (established : account.Established) :
    isOccupied journal address = true := by
  obtain ⟨now, held, continues⟩ := retains.held
  rw [isOccupied, held, Option.any_some]
  rcases established.continues continues with counted | coded
  · simp [counted]
  · simp [Account.hasCode, coded]

/-- A write that lets an account go on and does not schedule it for deletion. -/
structure Upholds (address : Address) (account : Account) (before after : Journal) : Prop where
  retains : before.Retains address account → after.Retains address account
  destructed : before.Retains address account →
    after.isDestructed address = before.isDestructed address

variable {address : Address} {account : Account}

namespace Upholds

variable {before middle after : Journal}

theorem refl (journal : Journal) : Upholds address account journal journal := ⟨id, fun _ => rfl⟩

theorem trans (first : Upholds address account before middle)
    (second : Upholds address account middle after) : Upholds address account before after where
  retains retains := second.retains (first.retains retains)
  destructed retains :=
    (second.destructed (first.retains retains)).trans (first.destructed retains)

theorem of_world_eq (world : after.world = before.world) (created : after.created = before.created)
    (destructed : after.destructed = before.destructed) : Upholds address account before after where
  retains retains := by
    refine ⟨?_, ?_⟩
    · rw [account?, world]
      exact retains.held
    · rw [isCreated, created]
      exact retains.created
  destructed _ := by rw [isDestructed, destructed, isDestructed]

theorem of_warms (warms : Warms before after) : Upholds address account before after :=
  of_world_eq warms.world warms.created warms.destructed

theorem of_update {other : Address} {change : Account → Account} (records : SameRecords before after)
    (world : after.world = before.world.update other change)
    (goes : other = address → ∀ {now}, account.Continues now → account.Continues (change now)) :
    Upholds address account before after where
  retains retains := by
    refine ⟨?_, ?_⟩
    · obtain ⟨now, held, continues⟩ := retains.held
      have there : before.world.get? address = some now := held
      rw [account?, world, World.get?_update]
      split
      · rename_i same
        refine ⟨_, rfl, goes same ?_⟩
        rw [same, World.account, there]
        exact continues
      · exact ⟨now, there, continues⟩
    · rw [isCreated, records.created]
      exact retains.created
  destructed _ := by rw [isDestructed, records.destructed, isDestructed]

end Upholds

section Writes

variable (journal : Journal) (other : Address)

theorem upholds_touch : Upholds address account journal (journal.touch other) := by
  obtain ⟨touched, changes, touches⟩ := exists_touch_eq journal other
  rw [touches]
  exact .of_world_eq rfl rfl rfl

theorem upholds_addRefund (amount : Int) :
    Upholds address account journal (journal.addRefund amount) := by
  rw [addRefund]
  split
  · exact .refl journal
  · exact .of_world_eq rfl rfl rfl

theorem upholds_setBalance (balance : Word) :
    Upholds address account journal (journal.setBalance other balance) :=
  .of_update (sameRecords_setBalance journal other balance) (world_setBalance journal other balance)
    fun _ _ continues => ⟨continues.code, continues.nonce, continues.storage⟩

theorem upholds_addBalance (amount : Word) :
    Upholds address account journal (journal.addBalance other amount) :=
  upholds_setBalance journal other _

theorem upholds_ensure : Upholds address account journal (journal.ensure other) :=
  .of_update (sameRecords_ensure journal other) (world_ensure journal other)
    fun _ _ continues => continues

theorem upholds_bumpNonce : Upholds address account journal (journal.bumpNonce other) :=
  .of_update (sameRecords_bumpNonce journal other) (world_bumpNonce journal other)
    fun _ _ continues => ⟨continues.code,
      UInt64.le_trans continues.nonce (le_nextNonce _), continues.storage⟩

theorem upholds_move (sender recipient : Address) (amount : Word) :
    Upholds address account journal (journal.move sender recipient amount) :=
  (((upholds_setBalance journal sender _).trans (upholds_addBalance _ recipient amount)).trans
    (upholds_touch _ sender)).trans (upholds_touch _ recipient)

theorem upholds_setSlot (key value : Word) (coded : other = address → account.code ≠ []) :
    Upholds address account journal (journal.setSlot other key value) :=
  .of_update (sameRecords_setSlot journal other key value) (world_setSlot journal other key value)
    fun same _ continues =>
      ⟨continues.code, continues.nonce, fun blank => absurd blank (coded same)⟩

theorem upholds_setCode (code : Bytes) (different : other ≠ address) :
    Upholds address account journal (journal.setCode other code) :=
  .of_update (sameRecords_setCode journal other code) (world_setCode journal other code)
    fun same => absurd same different

theorem upholds_createAccount (nonce : UInt64) (different : other ≠ address) :
    Upholds address account journal (journal.createAccount other nonce) := by
  have inserted (fresh : Account) (change : Change) : Upholds address account journal
      ({ journal with world := journal.world.insert other fresh }.record change) := by
    refine ⟨fun retains => ⟨?_, retains.created⟩, fun _ => rfl⟩
    obtain ⟨now, held, continues⟩ := retains.held
    have there : journal.world.get? address = some now := held
    refine ⟨now, ?_, continues⟩
    rw [account?, record, World.get?_insert, if_neg different]
    exact there
  have marked (replaced : Journal) : Upholds address account replaced
      (if replaced.created.contains other then replaced
        else { replaced with created := replaced.created.add other }.record
          (.createdInTransaction other)) := by
    split
    · exact .refl replaced
    · -- the new contract is recorded at another address
      refine ⟨fun retains => ⟨retains.held, ?_⟩, fun _ => rfl⟩
      rw [isCreated, record, SortedSet.contains_add_of_ne different]
      exact retains.created
  rw [createAccount]
  apply Upholds.trans _ (marked _)
  split <;> exact inserted _ _

end Writes

theorem isDestructed_markDestructed (journal : Journal) (closing : Address) :
    (journal.markDestructed closing).2.isDestructed address =
      (decide (closing = address) || journal.isDestructed address) := by
  have same : decide (Key.rank closing = Key.rank address) = decide (closing = address) :=
    decide_eq_decide.mpr ⟨fun ranks => Key.rank_injective ranks, congrArg _⟩
  rw [markDestructed]
  split
  · rename_i scheduled
    by_cases here : closing = address
    · rw [← here, decide_eq_true rfl, Bool.true_or]
      exact scheduled
    · rw [decide_eq_false here, Bool.false_or]
  · rw [isDestructed, record, SortedSet.contains_add, same]
    rfl

theorem retains_markDestructed {journal : Journal} (retains : journal.Retains address account)
    (closing : Address) : (journal.markDestructed closing).2.Retains address account := by
  rw [markDestructed]
  split
  · exact retains
  · exact ⟨retains.held, retains.created⟩

section Closing

variable (rules : Rules) (closing beneficiary : Address) (journal : Journal)

theorem exists_upholds_closeAccount (account : Account) (address : Address) :
    ∃ paid : Journal, Upholds address account journal paid ∧
      Exec.closeAccount rules closing beneficiary journal =
        if !rules.isActive .selfdestructSameTxOnly || journal.isCreated closing then
          (paid.markDestructed closing).2
        else paid :=
  exists_closeAccount_eq .refl .trans (fun start => upholds_addRefund start _)
    (fun start amount => upholds_addBalance start beneficiary amount)
    (fun start => upholds_setBalance start closing 0#256)
    (fun start => upholds_touch start beneficiary) journal

variable {rules closing journal}

theorem Retains.closeAccount (retains : journal.Retains address account) :
    (Exec.closeAccount rules closing beneficiary journal).Retains address account := by
  obtain ⟨paid, upholds, closes⟩ :=
    exists_upholds_closeAccount rules closing beneficiary journal account address
  rw [closes]
  split
  · exact retains_markDestructed (upholds.retains retains) closing
  · exact upholds.retains retains

theorem upholds_closeAccount
    (safe : closing ≠ address ∨ rules.isActive .selfdestructSameTxOnly = true) :
    Upholds address account journal (Exec.closeAccount rules closing beneficiary journal) := by
  refine ⟨fun retains => retains.closeAccount beneficiary, fun retains => ?_⟩
  obtain ⟨paid, upholds, closes⟩ :=
    exists_upholds_closeAccount rules closing beneficiary journal account address
  have unchanged := upholds.destructed retains
  rw [closes]
  split
  · rename_i destroys
    have different : closing ≠ address := by
      rcases safe with different | sameOnly
      · exact different
      · intro same
        rw [sameOnly, same, retains.created] at destroys
        cases destroys
    rw [isDestructed_markDestructed, decide_eq_false different, Bool.false_or, unchanged]
  · exact unchanged

end Closing

theorem get?_finish_of_full {journal : Journal} (cleanup : Bool)
    (kept : ∀ account, journal.account? address = some account → account.isEmpty = false) :
    (journal.finish cleanup).1.get? address =
      if journal.isDestructed address then none else journal.account? address := by
  have full : (journal.account? address).any Account.isEmpty = false := by
    cases held : journal.account? address with
    | none => rfl
    | some account => exact kept account held
  rw [get?_finish, full]
  simp

end Evm.Journal

end StateTransition
