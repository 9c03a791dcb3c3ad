import StateTransition.Proofs.Journal.Occupants

/-!
Nonces that are counted up. The largest nonce has no successor and would stay as it is; the journal
tells of every nonce that was counted what it was before, so whether it went up.
-/

namespace StateTransition.Evm

/-- A nonce that was counted went up by one. -/
def Change.StepsUp : Change → Prop
  | .nonce _ previous => (Journal.nextNonce previous).toNat = previous.toNat + 1
  | _ => True

namespace Journal

/-- Every nonce that was counted since the journal was begun went up by one. -/
def StepsUp (journal : Journal) : Prop := ∀ change ∈ journal.changes, change.StepsUp

theorem toNat_nextNonce_iff (nonce : UInt64) :
    (nextNonce nonce).toNat = nonce.toNat + 1 ↔ nonce.toNat + 1 < UInt64.size := by
  rw [nextNonce]
  split
  · rename_i room
    have sum : (nonce + 1).toNat = nonce.toNat + 1 := by
      rw [UInt64.toNat_add]
      exact Nat.mod_eq_of_lt room
    exact iff_of_true sum room
  · rename_i last
    exact iff_of_false (Nat.ne_of_lt (Nat.lt_succ_self _)) last

theorem nextNonce_of_last {nonce : UInt64} (last : ¬ nonce.toNat + 1 < UInt64.size) :
    nextNonce nonce = nonce :=
  if_neg last

/-- What leads from one journal to the other counts no nonce that would stay. -/
def KeepsSteps (before after : Journal) : Prop := before.StepsUp → after.StepsUp

namespace KeepsSteps

variable {before middle after : Journal}

theorem refl (journal : Journal) : KeepsSteps journal journal := id

theorem trans (first : KeepsSteps before middle) (second : KeepsSteps middle after) :
    KeepsSteps before after :=
  fun steps => second (first steps)

theorem of_eq (same : after.changes = before.changes) : KeepsSteps before after := by
  intro steps change member
  rw [same] at member
  exact steps change member

theorem of_push {change : Change} (pushed : after.changes = before.changes.push change)
    (up : change.StepsUp) : KeepsSteps before after := by
  intro steps other member
  rw [pushed] at member
  rcases Array.mem_push.mp member with old | new
  · exact steps other old
  · rw [new]
    exact up

theorem foldl {α : Type} {write : Journal → α → Journal}
    (keeps : ∀ journal item, KeepsSteps journal (write journal item)) (items : List α)
    (journal : Journal) : KeepsSteps journal (items.foldl write journal) := by
  induction items generalizing journal with
  | nil => exact .refl journal
  | cons item rest ih => exact (keeps journal item).trans (ih _)

end KeepsSteps

theorem stepsUp_start (world : World) : (start world).StepsUp := by
  intro change member
  cases Array.not_mem_empty change member

section Writes

variable (journal : Journal) (address : Address)

theorem keepsSteps_warmAccount : KeepsSteps journal (journal.warmAccount address).2 := by
  rw [warmAccount]
  split
  · exact .refl journal
  · exact .of_push rfl trivial

theorem keepsSteps_warmSlot (key : Word) : KeepsSteps journal (journal.warmSlot address key).2 := by
  rw [warmSlot]
  split
  · exact .refl journal
  · exact .of_push rfl trivial

theorem keepsSteps_touch : KeepsSteps journal (journal.touch address) := by
  rw [touch]
  split
  · exact .refl journal
  · exact .of_push rfl trivial

theorem keepsSteps_ensure : KeepsSteps journal (journal.ensure address) := by
  rw [ensure]
  split
  · exact .refl journal
  · exact .of_push rfl trivial

theorem keepsSteps_bumpNonce (room : (journal.nonce address).toNat + 1 < UInt64.size) :
    KeepsSteps journal (journal.bumpNonce address) := by
  have same : (journal.ensure address).nonce address = journal.nonce address :=
    (sameOccupants_ensure journal address).nonce address
  have up : (Change.nonce address ((journal.ensure address).nonce address)).StepsUp := by
    rw [same]
    exact (toNat_nextNonce_iff _).mpr room
  exact (keepsSteps_ensure journal address).trans (.of_push rfl up)

theorem keepsSteps_setBalance (balance : Word) :
    KeepsSteps journal (journal.setBalance address balance) :=
  (keepsSteps_ensure journal address).trans (.of_push rfl trivial)

theorem keepsSteps_addBalance (amount : Word) :
    KeepsSteps journal (journal.addBalance address amount) :=
  keepsSteps_setBalance journal address _

theorem keepsSteps_move (sender recipient : Address) (amount : Word) :
    KeepsSteps journal (journal.move sender recipient amount) :=
  (((keepsSteps_setBalance journal sender _).trans (keepsSteps_addBalance _ recipient amount)).trans
    (keepsSteps_touch _ sender)).trans (keepsSteps_touch _ recipient)

theorem keepsSteps_setCode (code : Bytes) : KeepsSteps journal (journal.setCode address code) :=
  (keepsSteps_ensure journal address).trans (.of_push rfl trivial)

theorem keepsSteps_setSlot (key value : Word) :
    KeepsSteps journal (journal.setSlot address key value) :=
  (keepsSteps_ensure journal address).trans (.of_push rfl trivial)

theorem keepsSteps_createAccount (nonce : UInt64) :
    KeepsSteps journal (journal.createAccount address nonce) := by
  have marked (replaced : Journal) : KeepsSteps replaced
      (if replaced.created.contains address then replaced
      else { replaced with created := replaced.created.add address }.record
        (.createdInTransaction address)) := by
    split
    · exact .refl replaced
    · exact .of_push rfl trivial
  apply KeepsSteps.trans _ (marked _)
  split
  · exact .of_push rfl trivial
  · exact .of_push rfl trivial

theorem keepsSteps_markDestructed : KeepsSteps journal (journal.markDestructed address).2 := by
  rw [markDestructed]
  split
  · exact .refl journal
  · exact .of_push rfl trivial

theorem keepsSteps_addRefund (amount : Int) : KeepsSteps journal (journal.addRefund amount) := by
  rw [addRefund]
  split
  · exact .refl journal
  · exact .of_push rfl trivial

end Writes

theorem keepsSteps_closeAccount (rules : Rules) (address beneficiary : Address)
    (journal : Journal) :
    KeepsSteps journal (Exec.closeAccount rules address beneficiary journal) :=
  rel_closeAccount .refl .trans (fun start => keepsSteps_addRefund start _)
    (fun start amount => keepsSteps_addBalance start beneficiary amount)
    (fun start => keepsSteps_setBalance start address 0#256)
    (fun start => keepsSteps_touch start beneficiary)
    (fun start => keepsSteps_markDestructed start address) journal

theorem keepsSteps_warmTarget (rules : Rules) (journal : Journal) (address : Address) :
    KeepsSteps journal (warmTarget rules journal address) := by
  rw [warmTarget]
  split
  · exact keepsSteps_warmAccount journal address
  · exact .refl journal

theorem keepsSteps_prewarm (rules : Rules) (environment : Environment) (tx : Transaction)
    (sender target : Address) (journal : Journal) :
    KeepsSteps journal (prewarm rules environment tx sender target journal) := by
  have item (start : Journal) (item : AccessListItem) : KeepsSteps start (warmItem start item) := by
    have keys (warmed : Journal) (key : Hash256) :
        KeepsSteps warmed (warmed.warmSlot item.address key.toWord).2 :=
      keepsSteps_warmSlot warmed item.address key.toWord
    exact (keepsSteps_warmAccount start item.address).trans (.foldl keys item.storageKeys _)
  have coinbase (start : Journal) : KeepsSteps start
      (if rules.isActive .warmCoinbase then (start.warmAccount environment.coinbase).2
      else start) := by
    split
    · exact keepsSteps_warmAccount start _
    · exact .refl start
  apply KeepsSteps.trans _ (coinbase _)
  split
  · exact (KeepsSteps.foldl keepsSteps_warmAccount _ journal).trans (.foldl item tx.accessList _)
  · exact .refl journal

end Journal

variable {setting : Setting} {machine after : Machine}

theorem Effect.keepsSteps (effect : Effect setting machine after) :
    machine.journal.KeepsSteps after.journal := by
  cases effect with
  | compute frame context gas => exact .refl _
  | warmAccount address => exact Journal.keepsSteps_warmAccount _ address
  | warmSlot address key => exact Journal.keepsSteps_warmSlot _ address key
  | store key value cold mutable =>
    exact (Journal.keepsSteps_addRefund _ _).trans (Journal.keepsSteps_setSlot _ _ key value)
  | storeTransient key value mutable => exact .of_push rfl trivial
  | emit log mutable => exact .of_eq rfl
  | close beneficiary mutable => exact Journal.keepsSteps_closeAccount _ _ beneficiary _

end StateTransition.Evm
