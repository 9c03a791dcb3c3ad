import StateTransition.Proofs.Instruction.Effects

namespace StateTransition.Evm.Journal

structure StaysWarm (before after : Journal) : Prop where
  accounts : ∀ address, before.isWarm address = true → after.isWarm address = true
  slots : ∀ slot, before.warmSlots.contains slot = true → after.warmSlots.contains slot = true

namespace StaysWarm

variable {before middle after : Journal}

theorem refl (journal : Journal) : StaysWarm journal journal :=
  ⟨fun _ warm => warm, fun _ warm => warm⟩

theorem trans (first : StaysWarm before middle) (second : StaysWarm middle after) :
    StaysWarm before after where
  accounts address warm := second.accounts address (first.accounts address warm)
  slots slot warm := second.slots slot (first.slots slot warm)

theorem of_eq (accounts : after.warmAccounts = before.warmAccounts)
    (slots : after.warmSlots = before.warmSlots) : StaysWarm before after where
  accounts address warm := by rwa [isWarm, accounts]
  slots slot warm := by rwa [slots]

theorem of_warms (warms : Warms before after) : StaysWarm before after :=
  ⟨warms.accounts, warms.slots⟩

theorem of_sameRecords (records : SameRecords before after) : StaysWarm before after :=
  of_eq records.warmAccounts records.warmSlots

end StaysWarm

section Writes

variable (journal : Journal) (address : Address)

theorem staysWarm_touch : StaysWarm journal (journal.touch address) := by
  obtain ⟨touched, changes, touches⟩ := exists_touch_eq journal address
  rw [touches]
  exact .of_eq rfl rfl

theorem staysWarm_addRefund (amount : Int) : StaysWarm journal (journal.addRefund amount) := by
  rw [addRefund]
  split
  · exact .refl journal
  · exact .of_eq rfl rfl

theorem staysWarm_markDestructed : StaysWarm journal (journal.markDestructed address).2 := by
  rw [markDestructed]
  split
  · exact .refl journal
  · exact .of_eq rfl rfl

theorem staysWarm_createAccount (nonce : UInt64) :
    StaysWarm journal (journal.createAccount address nonce) := by
  obtain ⟨world, created, changes, creates⟩ := exists_createAccount_eq journal address nonce
  rw [creates]
  exact .of_eq rfl rfl

theorem staysWarm_move (sender recipient : Address) (amount : Word) :
    StaysWarm journal (journal.move sender recipient amount) :=
  ((StaysWarm.of_sameRecords ((sameRecords_setBalance journal sender _).trans
    (sameRecords_addBalance _ recipient amount))).trans (staysWarm_touch _ sender)).trans
    (staysWarm_touch _ recipient)

end Writes

theorem staysWarm_closeAccount (rules : Rules) (address beneficiary : Address)
    (journal : Journal) :
    StaysWarm journal (Exec.closeAccount rules address beneficiary journal) :=
  rel_closeAccount .refl .trans (fun start => staysWarm_addRefund start _)
    (fun start amount => .of_sameRecords (sameRecords_addBalance start beneficiary amount))
    (fun start => .of_sameRecords (sameRecords_setBalance start address 0#256))
    (fun start => staysWarm_touch start beneficiary)
    (fun start => staysWarm_markDestructed start address) journal

theorem isWarm_warmAccount (journal : Journal) (address : Address) :
    (journal.warmAccount address).2.isWarm address = true := by
  rw [warmAccount]
  split
  · assumption
  · rw [isWarm, record, SortedSet.contains_add_self]

theorem contains_warmSlot (journal : Journal) (address : Address) (key : Word) :
    (journal.warmSlot address key).2.warmSlots.contains (address, key) = true := by
  rw [warmSlot]
  split
  · assumption
  · rw [record, SortedSet.contains_add_self]

theorem warmAccount_of_isWarm {journal : Journal} {address : Address}
    (warm : journal.isWarm address = true) : journal.warmAccount address = (false, journal) := by
  rw [warmAccount]
  exact if_pos warm

theorem warmSlot_of_contains {journal : Journal} {address : Address} {key : Word}
    (warm : journal.warmSlots.contains (address, key) = true) :
    journal.warmSlot address key = (false, journal) := by
  rw [warmSlot, if_pos warm]

end StateTransition.Evm.Journal

namespace StateTransition.Evm

variable {setting : Setting} {machine after : Machine}

theorem Effect.staysWarm (effect : Effect setting machine after) :
    machine.journal.StaysWarm after.journal := by
  cases effect with
  | compute frame context gas => exact .refl _
  | warmAccount address => exact .of_warms (Journal.warms_warmAccount _ address)
  | warmSlot address key => exact .of_warms (Journal.warms_warmSlot _ address key)
  | store key value cold mutable =>
    exact (Journal.staysWarm_addRefund _ _).trans
      (.of_sameRecords (Journal.sameRecords_setSlot _ _ key value))
  | storeTransient key value mutable => exact .of_eq rfl rfl
  | emit log mutable => exact .of_eq rfl rfl
  | close beneficiary mutable => exact Journal.staysWarm_closeAccount _ _ beneficiary _

end StateTransition.Evm
