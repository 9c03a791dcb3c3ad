import StateTransition.Proofs.World.Lookup

/-!
The difference of two worlds. It lists the addresses on which they disagree, each with what both
hold there, and so it leads from either world to the other.
-/

namespace StateTransition

/-- The same change, seen from the other world. -/
def AccountChange.exchange (change : AccountChange) : AccountChange := ⟨change.after, change.before⟩

namespace World

section Listed

variable (before after : World) (address : Address)

theorem eq_of_mem_diff {change : AccountChange}
    (listed : (address, change) ∈ changed before after ++ created before after) :
    before.get? address ≠ after.get? address ∧
      change = ⟨before.get? address, after.get? address⟩ := by
  rcases List.mem_append.mp listed with changes | creates
  · obtain ⟨⟨_, account⟩, member, lists⟩ := List.mem_filterMap.mp changes
    simp only [Option.ite_none_left_eq_some, Option.some.injEq, Prod.mk.injEq] at lists
    obtain ⟨differs, rfl, rfl⟩ := lists
    have held : before.get? _ = some account := (SortedMap.mem_toList_iff _ _ _).mp member
    rw [held]
    exact ⟨fun same => differs same.symm, rfl⟩
  · obtain ⟨⟨_, account⟩, member, lists⟩ := List.mem_filterMap.mp creates
    simp only [Option.ite_none_left_eq_some, Option.some.injEq, Prod.mk.injEq] at lists
    obtain ⟨absent, rfl, rfl⟩ := lists
    have held : after.get? _ = some account := (SortedMap.mem_toList_iff _ _ _).mp member
    have missing : before.get? _ = none := Option.not_isSome_iff_eq_none.mp absent
    rw [held, missing]
    exact ⟨nofun, rfl⟩

theorem mem_diff_of_ne (differs : before.get? address ≠ after.get? address) :
    (address, ⟨before.get? address, after.get? address⟩) ∈
      changed before after ++ created before after := by
  rw [List.mem_append, changed, created, List.mem_filterMap, List.mem_filterMap]
  cases held : before.get? address with
  | some account =>
    have member := (SortedMap.mem_toList_iff before.accounts address account).mpr held
    rw [held] at differs
    exact .inl ⟨(address, account), member, if_neg fun same => differs same.symm⟩
  | none =>
    cases there : after.get? address with
    | none => exact absurd (held.trans there.symm) differs
    | some account =>
      have member := (SortedMap.mem_toList_iff after.accounts address account).mpr there
      have missing : ¬ before.contains address = true := by simp [contains, held]
      exact .inr ⟨(address, account), member, if_neg missing⟩

theorem get?_diff : (diff before after).get? address =
    if before.get? address = after.get? address then none
    else some ⟨before.get? address, after.get? address⟩ := by
  rw [diff, SortedMap.get?_ofList]
  split
  · rename_i same
    rw [Option.eq_none_iff_forall_ne_some]
    intro change listed
    exact (eq_of_mem_diff before after address (mem_of_lastAssigned listed)).1 same
  · rename_i differs
    have member := mem_diff_of_ne before after address differs
    obtain ⟨change, last⟩ := Option.isSome_iff_exists.mp (lastAssigned_isSome_of_mem member)
    rw [last, (eq_of_mem_diff before after address (mem_of_lastAssigned last)).2]

theorem contains_diff : (diff before after).contains address = true ↔
    before.get? address ≠ after.get? address := by
  rw [SortedMap.contains, get?_diff]
  split <;> simp_all

theorem get?_diff_eq_some_iff {change : AccountChange} :
    (diff before after).get? address = some change ↔
      before.get? address ≠ after.get? address ∧
        change.before = before.get? address ∧ change.after = after.get? address := by
  rw [get?_diff]
  split
  · rename_i same
    exact ⟨nofun, fun listed => absurd same listed.1⟩
  · rename_i differs
    constructor
    · rintro ⟨⟩
      exact ⟨differs, rfl, rfl⟩
    · rintro ⟨-, first, second⟩
      rw [← first, ← second]

end Listed

@[simp] theorem diff_self (world : World) : diff world world = ∅ := by
  ext1 address
  rw [get?_diff, if_pos rfl]
  rfl

theorem diff_eq_empty_iff (before after : World) : diff before after = ∅ ↔ before = after := by
  constructor
  · intro nothing
    ext1 address
    have listed := get?_diff before after address
    rw [nothing] at listed
    split at listed
    · assumption
    · cases listed
  · rintro rfl
    exact diff_self before

theorem diff_comm (before after : World) :
    diff after before = (diff before after).mapValues AccountChange.exchange := by
  ext1 address
  rw [SortedMap.get?_mapValues, get?_diff, get?_diff]
  by_cases same : before.get? address = after.get? address
  · rw [if_pos same, if_pos same.symm]
    rfl
  · rw [if_neg same, if_neg fun other => same other.symm]
    rfl

/-- Puts an account at an address, or leaves none there. -/
def assign (world : World) (address : Address) : Option Account → World
  | some account => world.insert address account
  | none => world.erase address

def assignAll (world : World) (assignments : List (Address × Option Account)) : World :=
  assignments.foldl (fun world assignment => world.assign assignment.1 assignment.2) world

theorem get?_assign (world : World) (address : Address) (held : Option Account) (other : Address) :
    (world.assign address held).get? other =
      if address = other then held else world.get? other := by
  cases held with
  | some account => exact get?_insert world address account other
  | none => exact get?_erase world address other

theorem get?_assignAll (world : World) (assignments : List (Address × Option Account))
    (address : Address) : (world.assignAll assignments).get? address =
      (lastAssigned address assignments).getD (world.get? address) := by
  induction assignments generalizing world with
  | nil => rfl
  | cons first rest ih =>
    have ranks : Key.rank first.1 = Key.rank address ↔ first.1 = address :=
      ⟨fun same => Key.rank_injective same, fun same => same ▸ rfl⟩
    have later : (world.assignAll (first :: rest)).get? address =
        (lastAssigned address rest).getD ((world.assign first.1 first.2).get? address) := ih _
    rw [later, get?_assign, lastAssigned_cons]
    simp only [ranks]
    cases lastAssigned address rest with
    | some held => rfl
    | none => split <;> rfl

end World

namespace StateDiff

/-- Sets each listed address to what it holds after the change. -/
def redo (diff : StateDiff) (world : World) : World :=
  world.assignAll (diff.mapValues AccountChange.after).toList

/-- Sets each listed address to what it held before the change. -/
def undo (diff : StateDiff) (world : World) : World :=
  world.assignAll (diff.mapValues AccountChange.before).toList

theorem get?_redo (diff : StateDiff) (world : World) (address : Address) :
    (diff.redo world).get? address =
      ((diff.get? address).map AccountChange.after).getD (world.get? address) := by
  rw [redo, World.get?_assignAll, SortedMap.lastAssigned_toList, SortedMap.get?_mapValues]

theorem undo_eq_redo_exchange (diff : StateDiff) (world : World) :
    diff.undo world = redo (diff.mapValues AccountChange.exchange) world := by
  ext1 address
  rw [undo, World.get?_assignAll, SortedMap.lastAssigned_toList, SortedMap.get?_mapValues,
    get?_redo, SortedMap.get?_mapValues, Option.map_map]
  rfl

end StateDiff

namespace World

theorem redo_diff (before after : World) : (diff before after).redo before = after := by
  ext1 address
  rw [StateDiff.get?_redo, get?_diff]
  split
  · assumption
  · rfl

theorem undo_diff (before after : World) : (diff before after).undo after = before := by
  rw [StateDiff.undo_eq_redo_exchange, ← diff_comm, redo_diff]

example : (diff empty (empty.insert ⟨1#160⟩ {})).get? ⟨1#160⟩ = some ⟨none, some {}⟩ := by decide

end World

end StateTransition
