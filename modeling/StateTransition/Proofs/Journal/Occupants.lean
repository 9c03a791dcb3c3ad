import StateTransition.Proofs.Instruction.Effects
import StateTransition.Proofs.Journal.Identity

namespace StateTransition.Evm.Journal

/-- The nonce and the code at every address are the same. -/
structure SameOccupants (before after : Journal) : Prop where
  nonce : ∀ address, after.nonce address = before.nonce address
  code : ∀ address, after.code address = before.code address

namespace SameOccupants

variable {before middle after : Journal}

theorem refl (journal : Journal) : SameOccupants journal journal := ⟨fun _ => rfl, fun _ => rfl⟩

theorem trans (first : SameOccupants before middle) (second : SameOccupants middle after) :
    SameOccupants before after where
  nonce address := (second.nonce address).trans (first.nonce address)
  code address := (second.code address).trans (first.code address)

theorem of_world_eq (world : after.world = before.world) : SameOccupants before after where
  nonce address := by rw [Journal.nonce, world, Journal.nonce]
  code address := by rw [Journal.code, world, Journal.code]

theorem of_update {address : Address} {change : Account → Account}
    (world : after.world = before.world.update address change)
    (nonce : ∀ account, (change account).nonce = account.nonce)
    (code : ∀ account, (change account).code = account.code) : SameOccupants before after := by
  constructor
  · intro other
    rw [Journal.nonce, World.nonce, world, World.account_update]
    split
    · rename_i same
      rw [nonce, same]
      rfl
    · rfl
  · intro other
    rw [Journal.code, world, World.account_update]
    split
    · rename_i same
      rw [code, same]
      rfl
    · rfl

end SameOccupants

section Writes

variable (journal : Journal) (address : Address)

theorem sameOccupants_ensure : SameOccupants journal (journal.ensure address) :=
  .of_update (world_ensure journal address) (fun _ => rfl) fun _ => rfl

theorem sameOccupants_setBalance (balance : Word) :
    SameOccupants journal (journal.setBalance address balance) :=
  .of_update (world_setBalance journal address balance) (fun _ => rfl) fun _ => rfl

theorem sameOccupants_addBalance (amount : Word) :
    SameOccupants journal (journal.addBalance address amount) :=
  sameOccupants_setBalance journal address _

theorem sameOccupants_setSlot (key value : Word) :
    SameOccupants journal (journal.setSlot address key value) :=
  .of_update (world_setSlot journal address key value) (fun _ => rfl) fun _ => rfl

theorem sameOccupants_touch : SameOccupants journal (journal.touch address) :=
  .of_world_eq (world_touch journal address)

theorem sameOccupants_move (sender recipient : Address) (amount : Word) :
    SameOccupants journal (journal.move sender recipient amount) :=
  (((sameOccupants_setBalance journal sender _).trans
    (sameOccupants_addBalance _ recipient amount)).trans
    (sameOccupants_touch _ sender)).trans (sameOccupants_touch _ recipient)

theorem sameOccupants_addRefund (amount : Int) :
    SameOccupants journal (journal.addRefund amount) := by
  rw [addRefund]
  split
  · exact .refl journal
  · exact .of_world_eq rfl

theorem sameOccupants_markDestructed :
    SameOccupants journal (journal.markDestructed address).2 := by
  rw [markDestructed]
  split
  · exact .refl journal
  · exact .of_world_eq rfl

theorem sameOccupants_warmTarget (rules : Rules) :
    SameOccupants journal (warmTarget rules journal address) :=
  .of_world_eq (warms_warmTarget journal address rules).world

end Writes

theorem sameOccupants_closeAccount (rules : Rules) (address beneficiary : Address)
    (journal : Journal) :
    SameOccupants journal (Exec.closeAccount rules address beneficiary journal) :=
  rel_closeAccount .refl .trans (fun start => sameOccupants_addRefund start _)
    (fun start amount => sameOccupants_addBalance start beneficiary amount)
    (fun start => sameOccupants_setBalance start address 0#256)
    (fun start => sameOccupants_touch start beneficiary)
    (fun start => sameOccupants_markDestructed start address) journal

section Changes

variable (journal : Journal) (address other : Address)

theorem nonce_bumpNonce : (journal.bumpNonce address).nonce other =
    if address = other then nextNonce (journal.nonce address) else journal.nonce other := by
  rw [nonce, World.nonce, world_bumpNonce, World.account_update]
  split <;> rfl

theorem code_bumpNonce : (journal.bumpNonce address).code other = journal.code other := by
  rw [code, world_bumpNonce, World.account_update]
  split
  · rename_i same
    rw [← same]
    rfl
  · rfl

theorem nonce_setCode (installed : Bytes) :
    (journal.setCode address installed).nonce other = journal.nonce other := by
  rw [nonce, World.nonce, world_setCode, World.account_update]
  split
  · rename_i same
    rw [← same]
    rfl
  · rfl

theorem code_setCode (installed : Bytes) : (journal.setCode address installed).code other =
    if address = other then installed else journal.code other := by
  rw [code, world_setCode, World.account_update]
  split <;> rfl

theorem nonce_createAccount (fresh : UInt64) : (journal.createAccount address fresh).nonce other =
    if address = other then fresh else journal.nonce other := by
  rw [nonce, World.nonce, World.account, world_createAccount, World.get?_insert]
  split <;> rfl

theorem code_createAccount (fresh : UInt64) : (journal.createAccount address fresh).code other =
    if address = other then [] else journal.code other := by
  rw [code, World.account, world_createAccount, World.get?_insert]
  split <;> rfl

end Changes

theorem isOccupied_iff {journal : Journal} {address : Address} :
    isOccupied journal address = true ↔ journal.nonce address ≠ 0 ∨ journal.code address ≠ [] := by
  rw [isOccupied, Journal.nonce, World.nonce, Journal.code, World.account, Journal.account?]
  cases journal.world.get? address with
  | none => simp
  | some account => simp [Account.hasCode]

theorem isOccupied_of_nonce {journal : Journal} {address : Address}
    (used : journal.nonce address ≠ 0) : isOccupied journal address = true :=
  isOccupied_iff.mpr (.inl used)

theorem nextNonce_ne_zero (nonce : UInt64) : nextNonce nonce ≠ 0 := by
  intro zero
  have number := congrArg UInt64.toNat zero
  rw [nextNonce] at number
  split at number
  · rename_i room
    have sum : (nonce.toNat + (1 : UInt64).toNat) % 2 ^ 64 = nonce.toNat + 1 :=
      Nat.mod_eq_of_lt room
    rw [UInt64.toNat_add, sum] at number
    cases number
  · rename_i last
    rw [number] at last
    exact last (by decide)

/-- No address becomes vacant, and no account gets back to a nonce of zero. -/
structure Endures (before after : Journal) : Prop where
  nonce : ∀ address, before.nonce address ≠ 0 → after.nonce address ≠ 0
  occupied : ∀ address, isOccupied before address = true → isOccupied after address = true

namespace Endures

variable {before middle after : Journal}

theorem trans (first : Endures before middle) (second : Endures middle after) :
    Endures before after where
  nonce address used := second.nonce address (first.nonce address used)
  occupied address taken := second.occupied address (first.occupied address taken)

theorem of_same (same : SameOccupants before after) : Endures before after where
  nonce address used := by rwa [same.nonce]
  occupied address taken := by rwa [isOccupied_iff, same.nonce, same.code, ← isOccupied_iff]

theorem refl (journal : Journal) : Endures journal journal := of_same (.refl journal)

end Endures

theorem endures_bumpNonce (journal : Journal) (address : Address) :
    Endures journal (journal.bumpNonce address) := by
  have kept (other : Address) (used : journal.nonce other ≠ 0) :
      (journal.bumpNonce address).nonce other ≠ 0 := by
    rw [nonce_bumpNonce]
    split
    · exact nextNonce_ne_zero _
    · exact used
  refine ⟨kept, ?_⟩
  intro other taken
  rw [isOccupied_iff] at taken ⊢
  rw [code_bumpNonce]
  exact taken.imp (kept other) id

theorem endures_createAccount {journal : Journal} {address : Address}
    (vacant : isOccupied journal address = false) (fresh : UInt64) :
    Endures journal (journal.createAccount address fresh) := by
  have other_of {other : Address} (taken : isOccupied journal other = true) : address ≠ other := by
    intro same
    rw [same, taken] at vacant
    cases vacant
  constructor
  · intro other used
    rw [nonce_createAccount, if_neg (other_of (isOccupied_of_nonce used))]
    exact used
  · intro other taken
    have different := other_of taken
    rw [isOccupied_iff] at taken ⊢
    rw [nonce_createAccount, code_createAccount, if_neg different, if_neg different]
    exact taken

theorem endures_setCode {journal : Journal} {address : Address} (code : Bytes)
    (used : journal.nonce address ≠ 0) : Endures journal (journal.setCode address code) := by
  constructor
  · intro other used
    rwa [nonce_setCode]
  · intro other taken
    rw [isOccupied_iff] at taken ⊢
    rw [nonce_setCode, code_setCode]
    split
    · rename_i same
      rw [← same]
      exact .inl used
    · exact taken

end StateTransition.Evm.Journal

namespace StateTransition.Evm

variable {setting : Setting} {machine after : Machine}

theorem Effect.sameOccupants (effect : Effect setting machine after) :
    machine.journal.SameOccupants after.journal := by
  cases effect with
  | compute frame context gas => exact .refl _
  | warmAccount address => exact .of_world_eq (Journal.warms_warmAccount _ address).world
  | warmSlot address key => exact .of_world_eq (Journal.warms_warmSlot _ address key).world
  | store key value cold mutable =>
    exact (Journal.sameOccupants_addRefund _ _).trans (Journal.sameOccupants_setSlot _ _ key value)
  | storeTransient key value mutable => exact .of_world_eq rfl
  | emit log mutable => exact .of_world_eq rfl
  | close beneficiary mutable => exact Journal.sameOccupants_closeAccount _ _ beneficiary _

theorem Effects.sameOccupants (effects : Effects setting machine after) :
    machine.journal.SameOccupants after.journal := by
  induction effects with
  | refl => exact .refl _
  | tail _ effect ih => exact ih.trans effect.sameOccupants

end StateTransition.Evm
