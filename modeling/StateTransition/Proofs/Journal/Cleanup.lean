import StateTransition.Proofs.Journal.Occupants

namespace StateTransition.Evm.Journal

/-- What is empty afterwards, at all addresses but the exempt ones, is touched or was there before
just as it is. -/
structure TidiesBut (exempt : Address → Prop) (before after : Journal) : Prop where
  touched : ∀ address, before.touched.contains address = true →
    after.touched.contains address = true
  empty : ∀ {address account}, ¬ exempt address → after.account? address = some account →
    account.isEmpty = true →
    after.touched.contains address = true ∨ before.account? address = some account

abbrev Tidies : Journal → Journal → Prop := TidiesBut fun _ => False

variable {exempt : Address → Prop}

namespace TidiesBut

variable {before middle after : Journal}

theorem trans (first : TidiesBut exempt before middle) (second : TidiesBut exempt middle after) :
    TidiesBut exempt before after where
  touched address member := second.touched address (first.touched address member)
  empty := by
    intro address account kept held empty
    rcases second.empty kept held empty with touched | there
    · exact .inl touched
    · rcases first.empty kept there empty with touched | there
      · exact .inl (second.touched address touched)
      · exact .inr there

theorem of_world_eq (world : after.world = before.world)
    (touched : ∀ address, before.touched.contains address = true →
      after.touched.contains address = true) : TidiesBut exempt before after where
  touched := touched
  empty _ held _ := by
    rw [account?, world] at held
    exact .inr held

theorem refl (journal : Journal) : TidiesBut exempt journal journal :=
  of_world_eq rfl fun _ member => member

theorem of_warms (warms : Warms before after) : TidiesBut exempt before after := by
  apply of_world_eq warms.world
  intro address member
  rwa [warms.touched]

theorem of_update {address : Address} {change : Account → Account}
    (records : SameRecords before after) (world : after.world = before.world.update address change)
    (used : exempt address ∨ (change (before.world.account address)).Established) :
    TidiesBut exempt before after where
  touched other member := by rwa [records.touched]
  empty := by
    intro other account kept held empty
    rw [account?, world, World.get?_update] at held
    split at held
    · rename_i same
      cases held
      rcases used with spared | used
      · exact absurd (same ▸ spared) kept
      · rw [used.isEmpty_eq] at empty
        cases empty
    · exact .inr held

theorem mono {fewer : Address → Prop} (tidies : TidiesBut fewer before after)
    (spares : ∀ address, fewer address → exempt address) : TidiesBut exempt before after where
  touched := tidies.touched
  empty kept := tidies.empty fun fewer => kept (spares _ fewer)

theorem tidies (tidies : TidiesBut exempt before after)
    (touched : ∀ address, exempt address → after.touched.contains address = true) :
    Tidies before after where
  touched := tidies.touched
  empty := by
    intro address account _ held empty
    by_cases spared : exempt address
    · exact .inl (touched address spared)
    · exact tidies.empty spared held empty

end TidiesBut

theorem established_of_isOccupied {journal : Journal} {address : Address}
    (taken : isOccupied journal address = true) : (journal.world.account address).Established :=
  isOccupied_iff.mp taken

section Writes

variable (journal : Journal) (address : Address)

theorem contains_touch : (journal.touch address).touched.contains address = true := by
  rw [touch]
  split
  · assumption
  · rw [record, SortedSet.contains_add_self]

theorem contains_touch_of_contains {other : Address}
    (member : journal.touched.contains other = true) :
    (journal.touch address).touched.contains other = true := by
  rw [touch]
  split
  · exact member
  · exact SortedSet.contains_add_of_contains address member

theorem tidiesBut_touch : TidiesBut exempt journal (journal.touch address) :=
  .of_world_eq (world_touch journal address) fun _ => contains_touch_of_contains journal address

theorem tidiesBut_addRefund (amount : Int) : TidiesBut exempt journal (journal.addRefund amount) := by
  rw [addRefund]
  split
  · exact .refl journal
  · exact .of_world_eq rfl fun _ member => member

theorem tidiesBut_markDestructed :
    TidiesBut exempt journal (journal.markDestructed address).2 := by
  rw [markDestructed]
  split
  · exact .refl journal
  · exact .of_world_eq rfl fun _ member => member

variable {address}

theorem tidiesBut_ensure (spared : exempt address) :
    TidiesBut exempt journal (journal.ensure address) :=
  .of_update (sameRecords_ensure journal address) (world_ensure journal address) (.inl spared)

theorem tidiesBut_setBalance (balance : Word)
    (used : exempt address ∨ isOccupied journal address = true) :
    TidiesBut exempt journal (journal.setBalance address balance) :=
  .of_update (sameRecords_setBalance journal address balance)
    (world_setBalance journal address balance) (used.imp_right established_of_isOccupied)

theorem tidies_setSlot (key value : Word) (used : isOccupied journal address = true) :
    Tidies journal (journal.setSlot address key value) :=
  .of_update (sameRecords_setSlot journal address key value)
    (world_setSlot journal address key value) (.inr (established_of_isOccupied used))

theorem tidies_bumpNonce (address : Address) : Tidies journal (journal.bumpNonce address) :=
  .of_update (sameRecords_bumpNonce journal address) (world_bumpNonce journal address)
    (.inr (.inl (nextNonce_ne_zero _)))

theorem tidies_setCode (code : Bytes) (used : journal.nonce address ≠ 0) :
    Tidies journal (journal.setCode address code) :=
  .of_update (sameRecords_setCode journal address code) (world_setCode journal address code)
    (.inr (.inl used))

theorem tidies_move (sender recipient : Address) (amount : Word) :
    Tidies journal (journal.move sender recipient amount) := by
  have paid : TidiesBut (fun other => other = sender ∨ other = recipient) journal
      ((journal.debit sender amount).addBalance recipient amount) :=
    (tidiesBut_setBalance journal _ (.inl (.inl rfl))).trans
      (tidiesBut_setBalance _ _ (.inl (.inr rfl)))
  apply ((paid.trans (tidiesBut_touch _ sender)).trans (tidiesBut_touch _ recipient)).tidies
  rintro other (rfl | rfl)
  · exact contains_touch_of_contains _ _ (contains_touch _ _)
  · exact contains_touch _ _

theorem tidies_createAccount (address : Address) {nonce : UInt64} (used : nonce ≠ 0) :
    Tidies journal (journal.createAccount address nonce) := by
  constructor
  · intro other member
    obtain ⟨world, created, changes, creates⟩ := exists_createAccount_eq journal address nonce
    rwa [creates]
  · intro other account _ held empty
    rw [account?, world_createAccount, World.get?_insert] at held
    split at held
    · cases held
      simp [Account.isEmpty, used] at empty
    · exact .inr held

end Writes

theorem contains_closeAccount (rules : Rules) (address beneficiary : Address) (journal : Journal) :
    (Exec.closeAccount rules address beneficiary journal).touched.contains beneficiary = true := by
  have marked (start : Journal) :
      (start.markDestructed address).2.touched = start.touched := by
    rw [markDestructed]
    split <;> rfl
  simp only [Exec.closeAccount]
  split
  · rw [marked]
    exact contains_touch _ beneficiary
  · exact contains_touch _ beneficiary

structure Closes (address beneficiary : Address) (before after : Journal) : Prop where
  endures : Endures before after
  tidies : isOccupied before address = true → TidiesBut (· = beneficiary) before after

namespace Closes

variable {address beneficiary : Address} {before middle after : Journal}

theorem refl (journal : Journal) : Closes address beneficiary journal journal :=
  ⟨.refl journal, fun _ => .refl journal⟩

theorem trans (first : Closes address beneficiary before middle)
    (second : Closes address beneficiary middle after) :
    Closes address beneficiary before after where
  endures := first.endures.trans second.endures
  tidies used := (first.tidies used).trans (second.tidies (first.endures.occupied address used))

end Closes

theorem closes_closeAccount (rules : Rules) (address beneficiary : Address) (journal : Journal) :
    Closes address beneficiary journal (Exec.closeAccount rules address beneficiary journal) := by
  apply rel_closeAccount .refl .trans
  · intro start
    exact ⟨.of_same (sameOccupants_addRefund start _), fun _ => tidiesBut_addRefund start _⟩
  · intro start amount
    exact ⟨.of_same (sameOccupants_addBalance start beneficiary amount),
      fun _ => tidiesBut_setBalance start _ (.inl rfl)⟩
  · intro start
    exact ⟨.of_same (sameOccupants_setBalance start address _),
      fun used => tidiesBut_setBalance start _ (.inr used)⟩
  · intro start
    exact ⟨.of_same (sameOccupants_touch start beneficiary), fun _ => tidiesBut_touch start beneficiary⟩
  · intro start
    exact ⟨.of_same (sameOccupants_markDestructed start address),
      fun _ => tidiesBut_markDestructed start address⟩

theorem tidies_closeAccount {rules : Rules} {address : Address} (beneficiary : Address)
    {journal : Journal} (used : isOccupied journal address = true) :
    Tidies journal (Exec.closeAccount rules address beneficiary journal) := by
  apply ((closes_closeAccount rules address beneficiary journal).tidies used).tidies
  rintro other rfl
  exact contains_closeAccount rules address other journal

theorem account?_of_finish {journal : Journal} {address : Address} {account : Account}
    (held : (journal.finish true).1.get? address = some account) (empty : account.isEmpty = true) :
    journal.touched.contains address = false ∧ journal.account? address = some account := by
  rw [get?_finish] at held
  split at held
  · cases held
  · rename_i kept
    refine ⟨Bool.eq_false_iff.mpr fun touched => kept (.inr ⟨rfl, touched, ?_⟩), held⟩
    rw [held]
    exact empty

end StateTransition.Evm.Journal

namespace StateTransition.Evm

variable {setting : Setting} {machine after : Machine}

theorem Effect.tidies (effect : Effect setting machine after)
    (acts : isOccupied machine.journal machine.frame.context.address = true) :
    machine.journal.Tidies after.journal := by
  cases effect with
  | compute frame context gas => exact .refl _
  | warmAccount address => exact .of_warms (Journal.warms_warmAccount _ address)
  | warmSlot address key => exact .of_warms (Journal.warms_warmSlot _ address key)
  | store key value cold mutable =>
    have kept (refund : Int) :=
      (Journal.Endures.of_same (Journal.sameOccupants_addRefund machine.journal refund)).occupied _ acts
    exact (Journal.tidiesBut_addRefund _ _).trans (Journal.tidies_setSlot _ key value (kept _))
  | storeTransient key value mutable => exact .of_world_eq rfl fun _ member => member
  | emit log mutable => exact .of_world_eq rfl fun _ member => member
  | close beneficiary mutable => exact Journal.tidies_closeAccount beneficiary acts

theorem Effects.tidies (effects : Effects setting machine after)
    (acts : isOccupied machine.journal machine.frame.context.address = true) :
    machine.journal.Tidies after.journal := by
  induction effects with
  | refl => exact .refl _
  | @tail middle last reached effect ih =>
    apply ih.trans
    apply effect.tidies
    rw [Effects.context_eq reached]
    exact (Journal.Endures.of_same (Effects.sameOccupants reached)).occupied _ acts

end StateTransition.Evm
