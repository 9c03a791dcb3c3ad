import StateTransition.Proofs.World.Lookup

namespace StateTransition

namespace SortedEntries

variable {κ ν : Type} [Key κ]

/-- The sum of a measure over the values. -/
def total (measure : ν → Nat) : List (κ × ν) → Nat
  | [] => 0
  | entry :: rest => measure entry.2 + total measure rest

theorem total_insert (measure : ν → Nat) (key : κ) (value : ν) {entries : List (κ × ν)}
    (sorted : KeysIncrease entries) :
    total measure (insert key value entries) + (find? key entries).elim 0 measure =
      total measure entries + measure value := by
  induction entries with
  | nil => simp [insert, find?, total]
  | cons entry rest ih =>
    obtain ⟨above, tail⟩ := List.pairwise_cons.mp sorted
    rcases Nat.lt_trichotomy (Key.rank key) (Key.rank entry.1) with less | same | more
    · have absent : find? key (entry :: rest) = none := by
        apply find?_eq_none
        intro other member
        rcases List.mem_cons.mp member with first | later
        · rw [first]
          exact less
        · exact Nat.lt_trans less (above other later)
      rw [insert, if_pos less, absent, total]
      simp only [Option.elim_none]
      omega
    · have first : ¬ Key.rank key < Key.rank entry.1 := by omega
      rw [insert, if_neg first, if_pos same, find?, if_pos same.symm, total, total]
      simp only [Option.elim_some]
      omega
    · have first : ¬ Key.rank key < Key.rank entry.1 := by omega
      have second : ¬ Key.rank key = Key.rank entry.1 := by omega
      have third : ¬ Key.rank entry.1 = Key.rank key := by omega
      have later := ih tail
      rw [insert, if_neg first, if_neg second, find?, if_neg third, total, total]
      omega

theorem total_erase (measure : ν → Nat) (key : κ) (entries : List (κ × ν)) :
    total measure (erase key entries) + (find? key entries).elim 0 measure =
      total measure entries := by
  induction entries with
  | nil => simp [erase, find?, total]
  | cons entry rest ih =>
    by_cases same : Key.rank entry.1 = Key.rank key
    · rw [erase, if_pos same, find?, if_pos same, total]
      exact Nat.add_comm _ _
    · rw [erase, if_neg same, find?, if_neg same, total, total]
      omega

end SortedEntries

namespace World

variable (world : World) (address : Address)

def supply : Nat :=
  SortedEntries.total (fun account : Account => account.balance.toNat) world.accounts.toList

theorem toNat_balance : (world.balance address).toNat =
    (world.get? address).elim 0 fun account => account.balance.toNat := by
  rw [balance, account]
  cases world.get? address <;> rfl

theorem supply_insert (account : Account) :
    (world.insert address account).supply + (world.balance address).toNat =
      world.supply + account.balance.toNat := by
  rw [toNat_balance]
  exact SortedEntries.total_insert _ address account world.accounts.sorted

theorem supply_erase :
    (world.erase address).supply + (world.balance address).toNat = world.supply := by
  rw [toNat_balance]
  exact SortedEntries.total_erase _ address world.accounts.toList

theorem balance_insert (account : Account) (other : Address) :
    (world.insert address account).balance other =
      if address = other then account.balance else world.balance other := by
  rw [balance, World.account, get?_insert]
  split <;> rfl

theorem balance_erase_of_ne {other : Address} (different : address ≠ other) :
    (world.erase address).balance other = world.balance other := by
  rw [balance, World.account, get?_erase, if_neg different]
  rfl

theorem balance_le_supply : (world.balance address).toNat ≤ world.supply := by
  have erased := world.supply_erase address
  omega

theorem balance_add_balance_le_supply {other : Address} (different : address ≠ other) :
    (world.balance address).toNat + (world.balance other).toNat ≤ world.supply := by
  have erased := world.supply_erase address
  have kept := world.balance_erase_of_ne address different
  have rest := (world.erase address).balance_le_supply other
  rw [kept] at rest
  omega

theorem balance_update (change : Account → Account) (other : Address) :
    (world.update address change).balance other =
      if address = other then (change (world.account address)).balance else world.balance other :=
  world.balance_insert address _ other

theorem supply_update (change : Account → Account) :
    (world.update address change).supply + (world.balance address).toNat =
      world.supply + (change (world.account address)).balance.toNat :=
  world.supply_insert address _

theorem supply_insert_of_balance_eq {account : Account}
    (same : account.balance = world.balance address) :
    (world.insert address account).supply = world.supply := by
  have inserted := world.supply_insert address account
  rw [same] at inserted
  exact Nat.add_right_cancel inserted

theorem balance_insert_of_balance_eq {account : Account}
    (same : account.balance = world.balance address) (other : Address) :
    (world.insert address account).balance other = world.balance other := by
  rw [balance_insert]
  split
  · rename_i here
    rw [← here, same]
  · rfl

end World

end StateTransition
