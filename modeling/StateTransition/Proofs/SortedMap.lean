import StateTransition.SortedMap

namespace StateTransition

/-- The value that is assigned last to a key. -/
def lastAssigned {κ ν : Type} [Key κ] (key : κ) (entries : List (κ × ν)) : Option ν :=
  (entries.reverse.find? fun entry => Key.rank entry.1 = Key.rank key).map Prod.snd

section Assignments

variable {κ ν : Type} [Key κ]

theorem lastAssigned_cons (key : κ) (entry : κ × ν) (rest : List (κ × ν)) :
    lastAssigned key (entry :: rest) = (lastAssigned key rest).or
      (if Key.rank entry.1 = Key.rank key then some entry.2 else none) := by
  simp only [lastAssigned, List.reverse_cons, List.find?_append]
  cases rest.reverse.find? fun entry => decide (Key.rank entry.1 = Key.rank key) with
  | some found => simp
  | none => by_cases same : Key.rank entry.1 = Key.rank key <;> simp [same]

theorem mem_of_lastAssigned {key : κ} {value : ν} {entries : List (κ × ν)}
    (assigned : lastAssigned key entries = some value) : (key, value) ∈ entries := by
  obtain ⟨entry, found, same⟩ := Option.map_eq_some_iff.mp assigned
  have member := List.mem_reverse.mp (List.mem_of_find?_eq_some found)
  have ranks : Key.rank entry.1 = Key.rank key := by simpa using List.find?_some found
  rw [← Key.rank_injective ranks, ← same]
  exact member

theorem lastAssigned_isSome_of_mem {key : κ} {value : ν} {entries : List (κ × ν)}
    (member : (key, value) ∈ entries) : (lastAssigned key entries).isSome = true := by
  rw [lastAssigned, Option.isSome_map, List.find?_isSome]
  exact ⟨(key, value), List.mem_reverse.mpr member, decide_eq_true rfl⟩

theorem SortedEntries.find?_of_mem {key : κ} {value : ν} {entries : List (κ × ν)}
    (sorted : KeysIncrease entries) (member : (key, value) ∈ entries) :
    SortedEntries.find? key entries = some value := by
  induction entries with
  | nil => cases member
  | cons entry rest ih =>
    have tail := List.pairwise_cons.1 sorted
    rw [SortedEntries.find?]
    rcases List.mem_cons.mp member with same | later
    · rw [← same, if_pos rfl]
    · have below : Key.rank entry.1 < Key.rank key := tail.1 (key, value) later
      rw [if_neg (by omega), ih tail.2 later]

theorem SortedEntries.find?_map {μ : Type} (change : ν → μ) (key : κ) (entries : List (κ × ν)) :
    SortedEntries.find? key (entries.map fun entry => (entry.1, change entry.2)) =
      (SortedEntries.find? key entries).map change := by
  induction entries with
  | nil => rfl
  | cons entry rest ih =>
    rw [List.map_cons, SortedEntries.find?, SortedEntries.find?, ih]
    split <;> rfl

theorem lastAssigned_of_keysIncrease (key : κ) {entries : List (κ × ν)}
    (sorted : KeysIncrease entries) : lastAssigned key entries = SortedEntries.find? key entries := by
  induction entries with
  | nil => rfl
  | cons entry rest ih =>
    have tail := List.pairwise_cons.1 sorted
    rw [lastAssigned_cons, ih tail.2, SortedEntries.find?]
    split
    · rename_i same
      have above : SortedEntries.find? key rest = none :=
        SortedEntries.find?_eq_none fun other member => by
          have := tail.1 other member
          omega
      rw [above, Option.none_or]
    · rw [Option.or_none]

namespace SortedMap

theorem lastAssigned_toList (map : SortedMap κ ν) (key : κ) :
    lastAssigned key map.toList = map.get? key :=
  lastAssigned_of_keysIncrease key map.sorted

theorem get?_insertMany (map : SortedMap κ ν) (entries : List (κ × ν)) (key : κ) :
    (map.insertMany entries).get? key = (lastAssigned key entries).or (map.get? key) := by
  induction entries generalizing map with
  | nil => rfl
  | cons entry rest ih =>
    have later : (map.insertMany (entry :: rest)).get? key =
        (lastAssigned key rest).or ((map.insert entry.1 entry.2).get? key) := ih _
    rw [later, get?_insert, lastAssigned_cons, Option.or_assoc]
    split <;> simp

theorem get?_ofList (entries : List (κ × ν)) (key : κ) :
    (ofList entries).get? key = lastAssigned key entries := by
  rw [ofList, get?_insertMany, get?_empty, Option.or_none]

theorem insertMany_toList (map : SortedMap κ ν) :
    (∅ : SortedMap κ ν).insertMany map.toList = map := by
  ext1 key
  rw [get?_insertMany, lastAssigned_toList]
  exact Option.or_none

theorem mem_toList_iff (map : SortedMap κ ν) (key : κ) (value : ν) :
    (key, value) ∈ map.toList ↔ map.get? key = some value := by
  rw [← lastAssigned_toList]
  constructor
  · intro member
    rw [lastAssigned_of_keysIncrease key map.sorted]
    exact SortedEntries.find?_of_mem map.sorted member
  · exact mem_of_lastAssigned

theorem contains_iff_mem_keys (map : SortedMap κ ν) (key : κ) :
    map.contains key = true ↔ key ∈ map.keys := by
  rw [contains, get?, keys]
  induction map.toList with
  | nil => simp [SortedEntries.find?]
  | cons head rest ih =>
    rw [SortedEntries.find?, List.map_cons, List.mem_cons, ← ih]
    split
    · rename_i same
      simp [Key.rank_injective same]
    · rename_i different
      have other : key ≠ head.1 := fun same => different (congrArg Key.rank same.symm)
      simp [other]

def mapValues {μ : Type} (change : ν → μ) (map : SortedMap κ ν) : SortedMap κ μ :=
  ⟨map.toList.map fun entry => (entry.1, change entry.2), by
    rw [KeysIncrease, List.pairwise_map]
    exact map.sorted⟩

theorem get?_mapValues {μ : Type} (change : ν → μ) (map : SortedMap κ ν) (key : κ) :
    (map.mapValues change).get? key = (map.get? key).map change :=
  SortedEntries.find?_map change key map.toList

end SortedMap

theorem SortedEntries.insert_of_above {key : κ} (value : ν) {entries : List (κ × ν)}
    (above : ∀ entry ∈ entries, Key.rank entry.1 < Key.rank key) :
    SortedEntries.insert key value entries = entries ++ [(key, value)] := by
  induction entries with
  | nil => rfl
  | cons entry rest ih =>
    have first := above entry (by simp)
    rw [SortedEntries.insert, if_neg (by omega), if_neg (by omega),
      ih fun other member => above other (by simp [member]), List.cons_append]

end Assignments

namespace SortedSet

variable {κ : Type} [Key κ]

theorem contains_add (set : SortedSet κ) (key other : κ) :
    (set.add key).contains other =
      (decide (Key.rank key = Key.rank other) || set.contains other) := by
  rw [add, SortedMap.contains, SortedMap.get?_insert]
  split
  · rename_i same
    simp [same]
  · rename_i different
    simp [different, SortedMap.contains]

theorem contains_add_self (set : SortedSet κ) (key : κ) : (set.add key).contains key = true := by
  rw [contains_add, decide_eq_true rfl, Bool.true_or]

theorem contains_add_of_ne {set : SortedSet κ} {key other : κ} (different : key ≠ other) :
    (set.add key).contains other = set.contains other := by
  rw [contains_add, decide_eq_false, Bool.false_or]
  exact fun same => different (Key.rank_injective same)

theorem contains_add_of_contains {set : SortedSet κ} {other : κ} (key : κ)
    (member : set.contains other = true) : (set.add key).contains other = true := by
  rw [contains_add, member, Bool.or_true]

theorem add_of_contains {set : SortedSet κ} {key : κ} (member : set.contains key = true) :
    set.add key = set := by
  obtain ⟨_, held⟩ := Option.isSome_iff_exists.mp member
  exact SortedMap.insert_of_get? held

theorem ext {left right : SortedSet κ}
    (same : ∀ key, left.contains key = true ↔ right.contains key = true) : left = right := by
  ext1 key
  have members : (left.get? key).isSome = (right.get? key).isSome :=
    Bool.eq_iff_iff.mpr (same key)
  cases atLeft : left.get? key <;> cases atRight : right.get? key <;> simp_all

theorem contains_foldl_add (set : SortedSet κ) (keys : List κ) (key : κ) :
    (keys.foldl add set).contains key = true ↔ key ∈ keys ∨ set.contains key = true := by
  induction keys generalizing set with
  | nil => simp
  | cons first rest ih =>
    have ranks : Key.rank first = Key.rank key ↔ key = first :=
      ⟨fun same => (Key.rank_injective same).symm, fun same => same ▸ rfl⟩
    rw [List.foldl_cons, ih, contains_add, Bool.or_eq_true, decide_eq_true_iff, ranks,
      List.mem_cons]
    exact or_left_comm.trans or_assoc.symm

theorem foldl_add_congr (set : SortedSet κ) {left right : List κ}
    (same : ∀ key, key ∈ left ↔ key ∈ right) : left.foldl add set = right.foldl add set := by
  apply ext
  intro key
  rw [contains_foldl_add, contains_foldl_add, same]

end SortedSet

end StateTransition
