import StateTransition.Proofs.Fork.Lookup

namespace StateTransition.Mainnet

def known? (fork : Fork) (param : Param) : Option UInt64 :=
  (Fork.all.filter (· ≤ fork)).reverse.findSome? fun earlier =>
    lastAssigned param (assignments earlier)

/-- The nearest fork at or before this one that assigns a value decides. -/
theorem value_rules (fork : Fork) (param : Param) :
    (rules fork).value param = known? fork param := by
  have increasing : (layers.map Layer.fork).Pairwise (· < ·) := by decide
  have listed (earlier : Fork) : (SortedMap.ofList (assignments earlier)).get? param =
      lastAssigned param (assignments earlier) := SortedMap.get?_ofList _ _
  rw [rules, ForkTable.value_rules, ForkTable.visible, table, ForkTable.toList_ofLayers increasing,
    known?]
  simp only [layers, Layer.ofList, List.map_map, List.filter_map, ← List.map_reverse,
    List.findSome?_map]
  congr 1
  funext earlier
  exact listed earlier

def listed {α : Type} (count : Nat) (value : Nat → α) : Vector α count :=
  ⟨((List.range count).map value).toArray, by simp⟩

theorem get_listed {α : Type} {count : Nat} (value : Nat → α) (place : Fin count) :
    (listed count value).get place = value place := by
  have bound : place < ((List.range count).map value).toArray.size := by simp
  change ((List.range count).map value).toArray[place.val] = _
  rw [List.getElem_toArray, List.getElem_map, List.getElem_range]

/-- The rules of a fork with each value still to be looked up, which is quick where few are. -/
def readOff (fork : Fork) : Rules where
  fork := fork
  values := listed Param.count fun place => (Param.ofRank? place).bind (known? fork)
  opcodePrices := listed 256 fun byte => known? fork (.opcode (UInt8.ofNat byte))

theorem value_readOff (fork : Fork) (param : Param) :
    (readOff fork).value param = known? fork param := by
  rw [Rules.value, readOff, get_listed, Param.ofRank?_rank]
  rfl

theorem indexed_readOff (fork : Fork) : (readOff fork).Indexed := by
  intro byte
  rw [value_readOff, Rules.opcodePrice, readOff, get_listed, UInt8.ofNat_toNat]

theorem rules_eq_readOff (fork : Fork) : rules fork = readOff fork := by
  apply Rules.ext_value (ForkTable.fork_rules table fork) (ForkTable.indexed_rules table fork)
    (indexed_readOff fork)
  intro param
  rw [value_readOff]
  exact value_rules fork param

theorem opcodeGas_rules (fork : Fork) (byte : UInt8) :
    (rules fork).opcodeGas byte = ((rules fork).value (.opcode byte)).map UInt64.toNat := by
  rw [Rules.opcodeGas]
  exact congrArg _ (ForkTable.indexed_rules table fork byte)

theorem mem_assignments_of_value {fork : Fork} {param : Param} {value : UInt64}
    (known : (rules fork).value param = some value) :
    ∃ earlier, earlier ≤ fork ∧ (param, value) ∈ assignments earlier := by
  rw [value_rules] at known
  obtain ⟨earlier, member, assigned⟩ := List.exists_of_findSome?_eq_some known
  have before := List.mem_filter.mp (List.mem_reverse.mp member)
  exact ⟨earlier, of_decide_eq_true before.2, mem_of_lastAssigned assigned⟩

theorem isActive_of_defines {fork : Fork} {switch : Param}
    (defined : (rules fork).defines switch = true)
    (kept : ∀ earlier, (switch, 0) ∉ assignments earlier) :
    (rules fork).isActive switch = true := by
  obtain ⟨value, known⟩ := Option.isSome_iff_exists.mp defined
  obtain ⟨earlier, _, member⟩ := mem_assignments_of_value known
  have on : value ≠ 0 := by
    intro off
    rw [off] at member
    exact kept earlier member
  rw [Rules.isActive, known, Option.any_some]
  exact bne_iff_ne.mpr on

theorem defines_coldAccountAccess (fork : Fork) :
    (rules fork).defines .coldAccountAccess = decide (Fork.berlin ≤ fork) := by
  rw [Rules.defines, value_rules]
  cases fork <;> decide

theorem defines_coldSload (fork : Fork) :
    (rules fork).defines .coldSload = decide (Fork.berlin ≤ fork) := by
  rw [Rules.defines, value_rules]
  cases fork <;> decide

theorem isActive_warmCoinbase (fork : Fork) :
    (rules fork).isActive .warmCoinbase = decide (Fork.shanghai ≤ fork) := by
  rw [Rules.isActive, value_rules]
  cases fork <;> decide

theorem isActive_baseFee (fork : Fork) :
    (rules fork).isActive .baseFee = decide (Fork.london ≤ fork) := by
  rw [Rules.isActive, value_rules]
  cases fork <;> decide

theorem isActive_emptyAccountCleanup (fork : Fork) :
    (rules fork).isActive .emptyAccountCleanup = decide (Fork.byzantium ≤ fork) := by
  rw [Rules.isActive, value_rules]
  cases fork <;> decide

theorem isSome_opcodeGas_staticcall (fork : Fork) :
    ((rules fork).opcodeGas 0xfa).isSome = decide (Fork.byzantium ≤ fork) := by
  rw [opcodeGas_rules, value_rules]
  cases fork <;> decide

theorem isActive_selfdestructSameTxOnly (fork : Fork) :
    (rules fork).isActive .selfdestructSameTxOnly = decide (Fork.cancun ≤ fork) := by
  rw [Rules.isActive, value_rules]
  cases fork <;> decide

theorem callStipend_le_callValueTransfer (fork : Fork) :
    (rules fork).amount .callStipend ≤ (rules fork).amount .callValueTransfer := by
  simp only [Rules.amount, value_rules]
  cases fork <;> decide

theorem maxRefundQuotient_pos (fork : Fork) : 0 < (rules fork).amount .maxRefundQuotient := by
  simp only [Rules.amount, value_rules]
  cases fork <;> decide

theorem amount_callDepthLimit (fork : Fork) : (rules fork).amount .callDepthLimit = 1024 := by
  simp only [Rules.amount, value_rules]
  cases fork <;> decide

/-- No amount is large. -/
theorem amount_lt (fork : Fork) (param : Param) : (rules fork).amount param < 65536 := by
  have small : ∀ earlier, ∀ entry ∈ assignments earlier, entry.2.toNat < 65536 := by
    intro earlier
    cases earlier <;> decide +kernel
  rw [Rules.amount]
  cases known : (rules fork).value param with
  | none => decide
  | some value =>
    obtain ⟨earlier, _, member⟩ := mem_assignments_of_value known
    exact small earlier _ member

theorem sstoreNoop_le (fork : Fork) :
    (rules fork).amount .sstoreNoop ≤ (rules fork).amount .sstoreSet ∧
      (rules fork).amount .sstoreNoop ≤ (rules fork).amount .sstoreReset := by
  simp only [Rules.amount, value_rules]
  cases fork <;> decide

/-- The opcodes without a static price: some at every fork that has them, those that read accounts
or slots from Berlin on. -/
theorem free_of_mem {earlier : Fork} {byte : UInt8}
    (free : (Param.opcode byte, (0 : UInt64)) ∈ assignments earlier) :
    byte ∈ [0x00, 0x55, 0xf3, 0xfd, 0xff] ∨
      earlier = .berlin ∧ byte ∈ [0x31, 0x3b, 0x3c, 0x3f, 0x54, 0xf1, 0xf2, 0xf4, 0xfa] := by
  have listed : ∀ entry ∈ assignments earlier, entry.2 = 0 →
      entry.1 ∈ [.txCreate, .netSstoreMetering, .selfdestructRefund] ∨
      entry.1 ∈ [0x00, 0x55, 0xf3, 0xfd, 0xff].map Param.opcode ∨
      earlier = .berlin ∧
        entry.1 ∈ [0x31, 0x3b, 0x3c, 0x3f, 0x54, 0xf1, 0xf2, 0xf4, 0xfa].map Param.opcode := by
    cases earlier <;> decide +kernel
  rcases listed _ free rfl with switch | always | later
  · simp at switch
  · exact .inl (by simpa using always)
  · exact .inr (by simpa using later)

end StateTransition.Mainnet
