import StateTransition.Proofs.Journal.Records
import StateTransition.Proofs.Journal.Writes

/-!
Writes that nobody can tell from reading: they warm and touch accounts, move nothing between
accounts that are there, and at most make a provided contract's empty account.
-/

namespace StateTransition.Evm.Journal

/-- What was there is still there as it was, and what was added is an empty account at one of the
addresses of the provided contracts. Only warm and touched accounts may have become more. -/
structure Observes (before after : Journal) : Prop where
  kept : ∀ {address account}, before.account? address = some account →
    after.account? address = some account
  appeared : ∀ {address account}, before.account? address = none →
    after.account? address = some account → account = {} ∧ address.bits.toNat ∈ [1, 2, 3, 4]
  initial : after.initial = before.initial
  transient : after.transient = before.transient
  created : after.created = before.created
  destructed : after.destructed = before.destructed
  logs : after.logs = before.logs
  refund : after.refund = before.refund
  warmAccounts : ∀ address, before.warmAccounts.contains address = true →
    after.warmAccounts.contains address = true
  warmSlots : ∀ slot, before.warmSlots.contains slot = true → after.warmSlots.contains slot = true
  touched : ∀ address, before.touched.contains address = true →
    after.touched.contains address = true

namespace Observes

variable {before middle after : Journal}

theorem of_warms (warms : Warms before after) : Observes before after where
  kept held := by
    rw [account?, warms.world]
    exact held
  appeared missing held := by
    rw [account?, warms.world] at held
    rw [account?, held] at missing
    cases missing
  initial := warms.initial
  transient := warms.transient
  created := warms.created
  destructed := warms.destructed
  logs := warms.logs
  refund := warms.refund
  warmAccounts := warms.accounts
  warmSlots := warms.slots
  touched address member := by rwa [warms.touched]

theorem of_sameRecords (records : SameRecords before after)
    (kept : ∀ {address account}, before.account? address = some account →
      after.account? address = some account)
    (appeared : ∀ {address account}, before.account? address = none →
      after.account? address = some account → account = {} ∧ address.bits.toNat ∈ [1, 2, 3, 4]) :
    Observes before after where
  kept := kept
  appeared := appeared
  initial := records.initial
  transient := records.transient
  created := records.created
  destructed := records.destructed
  logs := records.logs
  refund := records.refund
  warmAccounts address member := by rwa [records.warmAccounts]
  warmSlots slot member := by rwa [records.warmSlots]
  touched address member := by rwa [records.touched]

theorem of_world_eq (records : SameRecords before after) (world : after.world = before.world) :
    Observes before after := by
  have same (address : Address) : after.account? address = before.account? address := by
    rw [account?, world, account?]
  apply of_sameRecords records
  · intro address account held
    rw [same]
    exact held
  · intro address account missing held
    rw [same, missing] at held
    cases held

theorem refl (journal : Journal) : Observes journal journal := of_warms (.refl journal)

theorem trans (first : Observes before middle) (second : Observes middle after) :
    Observes before after where
  kept held := second.kept (first.kept held)
  appeared := by
    intro address account missing held
    cases between : middle.account? address with
    | none => exact second.appeared between held
    | some existing =>
      have new := first.appeared missing between
      rw [second.kept between] at held
      cases held
      exact new
  initial := second.initial.trans first.initial
  transient := second.transient.trans first.transient
  created := second.created.trans first.created
  destructed := second.destructed.trans first.destructed
  logs := second.logs.trans first.logs
  refund := second.refund.trans first.refund
  warmAccounts address member := second.warmAccounts address (first.warmAccounts address member)
  warmSlots slot member := second.warmSlots slot (first.warmSlots slot member)
  touched address member := second.touched address (first.touched address member)

theorem contains (observes : Observes before after) {address : Address}
    (present : before.contains address = true) : after.contains address = true := by
  obtain ⟨account, held⟩ := Option.isSome_iff_exists.mp present
  have kept : after.account? address = some account := observes.kept held
  exact Option.isSome_iff_exists.mpr ⟨account, kept⟩

end Observes

variable {journal : Journal} {address sender recipient : Address} {amount : Word}

theorem observes_touch (journal : Journal) (address : Address) :
    Observes journal (journal.touch address) := by
  rw [touch]
  split
  · exact .refl journal
  · constructor
    case touched => exact fun _ member => SortedSet.contains_add_of_contains address member
    case kept => exact fun held => held
    case appeared =>
      intro other account missing held
      have there : journal.account? other = some account := held
      rw [missing] at there
      cases there
    case warmAccounts | warmSlots => exact fun _ member => member
    all_goals rfl

theorem observes_ensure (known : journal.contains address = true ∨
      (Precompile.at? address).isSome = true) :
    Observes journal (journal.ensure address) := by
  apply Observes.of_sameRecords (sameRecords_ensure journal address)
  · intro other account held
    have there : journal.world.get? other = some account := held
    rw [account?, world_ensure, World.get?_update]
    split
    · rename_i same
      rw [same, World.account, there]
      rfl
    · exact there
  · intro other account missing held
    have absent : journal.world.get? other = none := missing
    rw [account?, world_ensure, World.get?_update] at held
    split at held
    · rename_i same
      rw [same, World.account, absent] at held
      cases held
      rcases known with present | provided
      · rw [same, contains, World.contains, absent] at present
        cases present
      · rw [same] at provided
        obtain ⟨contract, found⟩ := Option.isSome_iff_exists.mp provided
        have number : contract.number = other.bits.toNat := by
          simpa using List.find?_some found
        refine ⟨rfl, ?_⟩
        rw [← number]
        cases contract <;> decide
    · rw [absent] at held
      cases held

theorem world_debit_zero (present : journal.contains address = true) :
    (journal.debit address 0#256).world = journal.world := by
  rw [world_debit]
  apply World.update_of_eq present
  simp only [BitVec.sub_zero]

theorem world_addBalance_zero (present : journal.contains address = true) :
    (journal.addBalance address 0#256).world = journal.world := by
  have fits : (journal.balance address).toNat + (0#256 : Word).toNat < Word.modulus :=
    (journal.balance address).isLt
  rw [world_addBalance fits]
  apply World.update_of_eq present
  simp only [Word.ofNat, BitVec.toNat_ofNat, Nat.zero_mod, Nat.add_zero, BitVec.ofNat_toNat,
    BitVec.setWidth_eq]

theorem world_addBalance_debit (present : journal.contains address = true)
    (payable : journal.cannotPay address amount = false) :
    ((journal.debit address amount).addBalance address amount).world = journal.world := by
  have enough := le_balance_of_payable payable
  have left : (journal.balance address - amount).toNat + amount.toNat =
      (journal.balance address).toNat := by
    rw [BitVec.toNat_sub_of_le enough]
    exact Nat.sub_add_cancel enough
  have debited : (journal.debit address amount).balance address =
      journal.balance address - amount := by
    rw [balance, World.balance, world_debit, World.account_update, if_pos rfl]
    rfl
  have fits : ((journal.debit address amount).balance address).toNat + amount.toNat <
      Word.modulus := by
    rw [debited, left]
    exact (journal.balance address).isLt
  rw [world_addBalance fits, world_debit, World.update_update]
  apply World.update_of_eq present
  have whole : ((journal.world.account address).balance - amount).toNat + amount.toNat =
      (journal.world.account address).balance.toNat := left
  simp only [whole, Word.ofNat, BitVec.ofNat_toNat, BitVec.setWidth_eq]

theorem observes_move (payable : journal.cannotPay sender amount = false)
    (sends : journal.contains sender = true) (receives : journal.contains recipient = true)
    (still : amount = 0#256 ∨ sender = recipient) :
    Observes journal (journal.move sender recipient amount) := by
  have records := (sameRecords_setBalance journal sender (journal.balance sender - amount)).trans
    (sameRecords_addBalance (journal.debit sender amount) recipient amount)
  have paid : ((journal.debit sender amount).addBalance recipient amount).world =
      journal.world := by
    rcases still with zero | same
    · subst zero
      have there : (journal.debit sender 0#256).contains recipient = true := by
        rw [contains, world_debit_zero sends]
        exact receives
      rw [world_addBalance_zero there, world_debit_zero sends]
    · subst same
      exact world_addBalance_debit sends payable
  exact ((Observes.of_world_eq records paid).trans (observes_touch _ sender)).trans
    (observes_touch _ recipient)

end StateTransition.Evm.Journal
