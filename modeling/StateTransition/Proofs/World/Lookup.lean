import StateTransition.Proofs.SortedMap
import StateTransition.World

namespace StateTransition

namespace Account

variable (account : Account) (slots : List (Word × Word))

theorem setSlots_cons (entry : Word × Word) :
    account.setSlots (entry :: slots) = (account.setSlot entry.1 entry.2).setSlots slots := rfl

theorem setSlots_eq :
    account.setSlots slots = { account with storage := (account.setSlots slots).storage } := by
  induction slots generalizing account with
  | nil => rfl
  | cons entry rest ih =>
    rw [setSlots_cons, ih]
    rfl

theorem slot_setSlots (key : Word) :
    (account.setSlots slots).slot key = (lastAssigned key slots).getD (account.slot key) := by
  induction slots generalizing account with
  | nil => rfl
  | cons entry rest ih =>
    have first : (account.setSlot entry.1 entry.2).slot key =
        if Key.rank entry.1 = Key.rank key then entry.2 else account.slot key :=
      Slots.get_set _ _ _ _
    rw [setSlots_cons, ih, first, lastAssigned_cons]
    cases lastAssigned key rest with
    | some value => rfl
    | none => split <;> rfl

end Account

namespace World

variable (world : World) (address : Address)

theorem get?_insert (account : Account) (other : Address) :
    (world.insert address account).get? other =
      if address = other then some account else world.get? other := by
  rw [insert, get?, SortedMap.get?_insert]
  by_cases same : address = other
  · rw [if_pos (congrArg _ same), if_pos same]
  · rw [if_neg fun ranks => same (Key.rank_injective ranks), if_neg same]
    rfl

theorem get?_erase (other : Address) :
    (world.erase address).get? other = if address = other then none else world.get? other := by
  rw [erase, get?, SortedMap.get?_erase]
  by_cases same : address = other
  · rw [if_pos (congrArg _ same), if_pos same]
  · rw [if_neg fun ranks => same (Key.rank_injective ranks), if_neg same]
    rfl

theorem get?_foldl_erase (keys : List Address) :
    (keys.foldl World.erase world).get? address =
      if address ∈ keys then none else world.get? address := by
  induction keys generalizing world with
  | nil => rfl
  | cons key rest ih =>
    rw [List.foldl_cons, ih, get?_erase]
    by_cases later : address ∈ rest
    · rw [if_pos later, if_pos (List.mem_cons_of_mem _ later)]
    · by_cases here : key = address
      · rw [if_neg later, if_pos here, here, if_pos List.mem_cons_self]
      · have missing : address ∉ key :: rest := by
          rw [List.mem_cons, not_or]
          exact ⟨fun same => here same.symm, later⟩
        rw [if_neg later, if_neg here, if_neg missing]

theorem get?_update (change : Account → Account) (other : Address) :
    (world.update address change).get? other =
      if address = other then some (change (world.account address)) else world.get? other :=
  world.get?_insert address _ other

theorem account_update (change : Account → Account) (other : Address) :
    (world.update address change).account other =
      if address = other then change (world.account address) else world.account other := by
  rw [account, get?_update]
  split <;> rfl

@[ext] theorem ext {left right : World} (same : ∀ address, left.get? address = right.get? address) :
    left = right := by
  have accounts : left.accounts = right.accounts := SortedMap.ext same
  cases left
  cases right
  cases accounts
  rfl

theorem update_update (first second : Account → Account) :
    (world.update address first).update address second =
      world.update address (fun account => second (first account)) := by
  ext1 other
  simp only [get?_update, account_update, if_true]
  split <;> rfl

theorem update_congr {first second : Account → Account}
    (same : first (world.account address) = second (world.account address)) :
    world.update address first = world.update address second := by
  rw [update, update, same]

variable {world address}

theorem slot_update {change : Account → Account} {key : Word}
    (kept : (change (world.account address)).slot key = world.slot address key) (other : Address) :
    (world.update address change).slot other key = world.slot other key := by
  rw [slot, account_update]
  split
  · rename_i same
    rw [kept, same]
  · rfl

theorem update_of_eq {change : Account → Account} (present : world.contains address = true)
    (same : change (world.account address) = world.account address) :
    world.update address change = world := by
  ext1 other
  rw [get?_update, same]
  split
  · rename_i here
    obtain ⟨account, held⟩ := Option.isSome_iff_exists.mp present
    rw [← here, World.account, held]
    rfl
  · rfl

theorem account_of_get? {account : Account} (held : world.get? address = some account) :
    world.account address = account := by
  rw [World.account, held]
  rfl

theorem account_of_not_contains (absent : world.contains address = false) :
    world.account address = {} := by
  have missing : world.get? address = none := by
    simpa [contains] using absent
  rw [account, missing]
  rfl

end World

end StateTransition
