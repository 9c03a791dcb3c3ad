import StateTransition.Fork.Mainnet
import StateTransition.Proofs.SortedMap

namespace StateTransition

theorem Param.exists_rank_eq {place : Nat} (bound : place < Param.count) :
    ∃ param : Param, param.rank = place := by
  by_cases named : place < 43
  · have ranks : ∀ place : Fin 43, (Param.named[place.val]?.map fun entry => entry.1.rank) =
        some place.val := by decide
    obtain ⟨entry, listed, same⟩ := Option.map_eq_some_iff.mp (ranks ⟨place, named⟩)
    exact ⟨entry.1, same⟩
  · refine ⟨.opcode (UInt8.ofNat (place - 43)), ?_⟩
    have small : place - 43 < 256 := by
      rw [Param.count] at bound
      omega
    rw [Param.rank, UInt8.toNat_ofNat_of_lt' small]
    omega

namespace Rules

theorem value_assign (rules : Rules) (param other : Param) (value : UInt64) :
    (rules.assign param value).value other =
      if Key.rank param = Key.rank other then some value else rules.value other := by
  have bound := other.rank_lt
  change (rules.values.set param.rank (some value) param.rank_lt)[other.rank] = _
  rw [Vector.getElem_set]
  rfl

theorem value_foldl_assign (rules : Rules) (entries : List (Param × UInt64)) (param : Param) :
    (entries.foldl (fun rules entry => rules.assign entry.1 entry.2) rules).value param =
      (lastAssigned param entries).or (rules.value param) := by
  induction entries generalizing rules with
  | nil => rfl
  | cons entry rest ih =>
    rw [List.foldl_cons, ih, value_assign, lastAssigned_cons, Option.or_assoc]
    split <;> simp

theorem value_foldl_layers (rules : Rules) (layers : List (Fork × SortedMap Param UInt64))
    (param : Param) :
    (layers.foldl (fun rules layer =>
      layer.2.toList.foldl (fun rules entry => rules.assign entry.1 entry.2) rules) rules).value param =
      (layers.reverse.findSome? fun layer => layer.2.get? param).or (rules.value param) := by
  induction layers generalizing rules with
  | nil => rfl
  | cons layer rest ih =>
    rw [List.foldl_cons, ih, value_foldl_assign, SortedMap.lastAssigned_toList, List.reverse_cons,
      List.findSome?_append, Option.or_assoc]
    simp

def Indexed (rules : Rules) : Prop :=
  ∀ byte, rules.opcodePrice byte = rules.value (.opcode byte)

theorem Indexed.assign {rules : Rules} (indexed : rules.Indexed) (param : Param) (value : UInt64) :
    (rules.assign param value).Indexed := by
  intro byte
  have bound : byte.toNat < 256 := byte.toNat_lt
  have before : rules.opcodePrices[byte.toNat] = rules.value (.opcode byte) := indexed byte
  rw [value_assign]
  cases param with
  | opcode other =>
    have ranks : Key.rank (Param.opcode other) = Key.rank (Param.opcode byte) ↔
        other.toNat = byte.toNat := Nat.add_left_cancel_iff
    change (rules.opcodePrices.set other.toNat (some value) other.toNat_lt)[byte.toNat] = _
    rw [Vector.getElem_set, before]
    simp only [ranks]
  | _ =>
    rw [if_neg]
    · exact before
    · intro same
      cases Key.rank_injective same

/-- Rules of one fork are equal when they have the same values. -/
theorem ext_value {left right : Rules} (fork : left.fork = right.fork)
    (indexedLeft : left.Indexed) (indexedRight : right.Indexed)
    (value : ∀ param, left.value param = right.value param) : left = right := by
  have values : left.values = right.values := by
    apply Vector.ext
    intro place bound
    obtain ⟨param, rfl⟩ := Param.exists_rank_eq bound
    exact value param
  have prices : left.opcodePrices = right.opcodePrices := by
    apply Vector.ext
    intro place bound
    have byte : (UInt8.ofNat place).toNat = place := UInt8.toNat_ofNat_of_lt' bound
    have same : left.opcodePrice (UInt8.ofNat place) = right.opcodePrice (UInt8.ofNat place) := by
      rw [indexedLeft, indexedRight, value]
    simp only [opcodePrice, byte] at same
    exact same
  cases left
  cases right
  cases fork
  cases values
  cases prices
  rfl

end Rules

namespace ForkTable

theorem value_rules (table : ForkTable) (fork : Fork) (param : Param) :
    (table.rules fork).value param =
      (table.visible fork).reverse.findSome? fun layer => layer.2.get? param := by
  have blank : (⟨fork, Vector.replicate Param.count none, Vector.replicate 256 none⟩ : Rules).value
      param = none := by
    have bound := param.rank_lt
    change (Vector.replicate Param.count (none : Option UInt64))[param.rank] = none
    rw [Vector.getElem_replicate]
  rw [rules, Rules.value_foldl_layers, blank, Option.or_none]

theorem rules_induction {motive : Rules → Prop} (table : ForkTable) (fork : Fork)
    (blank : motive ⟨fork, Vector.replicate Param.count none, Vector.replicate 256 none⟩)
    (assigned : ∀ rules param value, motive rules → motive (rules.assign param value)) :
    motive (table.rules fork) :=
  List.foldlRecOn _ _ blank fun _ kept _ _ =>
    List.foldlRecOn _ _ kept fun rules kept entry _ => assigned rules entry.1 entry.2 kept

theorem fork_rules (table : ForkTable) (fork : Fork) : (table.rules fork).fork = fork := by
  apply rules_induction (motive := fun rules => rules.fork = fork)
  · rfl
  · intro rules param value same
    exact same

theorem indexed_rules (table : ForkTable) (fork : Fork) : (table.rules fork).Indexed := by
  apply rules_induction table fork
  · intro byte
    have bound := (Param.opcode byte).rank_lt
    have listed : byte.toNat < 256 := byte.toNat_lt
    change (Vector.replicate 256 (none : Option UInt64))[byte.toNat] =
      (Vector.replicate Param.count (none : Option UInt64))[(Param.opcode byte).rank]
    rw [Vector.getElem_replicate, Vector.getElem_replicate]
  · intro rules param value indexed
    exact indexed.assign param value

theorem toList_addLayer {table : ForkTable} {layer : Layer}
    (above : ∀ entry ∈ table.layers.toList, entry.1 < layer.fork) :
    (table.addLayer layer).layers.toList = table.layers.toList ++ [(layer.fork, layer.values)] := by
  have unknown : table.layers.get? layer.fork = none := by
    rw [← SortedMap.lastAssigned_toList, lastAssigned, Option.map_eq_none_iff, List.find?_eq_none]
    intro entry member
    have : Key.rank entry.1 < Key.rank layer.fork := above entry (List.mem_reverse.mp member)
    simp only [decide_eq_true_eq]
    omega
  simp only [addLayer, unknown, Option.getD_none, SortedMap.insertMany_toList, SortedMap.insert]
  exact SortedEntries.insert_of_above _ above

theorem toList_foldl_addLayer (table : ForkTable) (layers : List Layer)
    (increasing : (layers.map Layer.fork).Pairwise (· < ·))
    (above : ∀ entry ∈ table.layers.toList, ∀ layer ∈ layers, entry.1 < layer.fork) :
    (layers.foldl addLayer table).layers.toList =
      table.layers.toList ++ layers.map fun layer => (layer.fork, layer.values) := by
  induction layers generalizing table with
  | nil => simp
  | cons layer rest ih =>
    obtain ⟨first, later⟩ := List.pairwise_cons.mp increasing
    have added := toList_addLayer fun entry member => above entry member layer (by simp)
    rw [List.foldl_cons, ih _ later, added]
    · simp
    · intro entry member next nextMember
      rw [added] at member
      rcases List.mem_append.mp member with old | new
      · exact above entry old next (by simp [nextMember])
      · rw [List.mem_singleton.mp new]
        exact first next.fork (List.mem_map_of_mem nextMember)

theorem toList_ofLayers {layers : List Layer}
    (increasing : (layers.map Layer.fork).Pairwise (· < ·)) :
    (ofLayers layers).layers.toList = layers.map fun layer => (layer.fork, layer.values) :=
  toList_foldl_addLayer empty layers increasing fun _ member => nomatch member

end ForkTable

end StateTransition
