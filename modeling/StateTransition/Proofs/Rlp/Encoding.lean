import StateTransition.Proofs.Bytes
import StateTransition.Rlp.Encoding

/-!
An encoding tells which item it is of and where it ends: no encoding is the start of another. The
format writes lengths in at most eight bytes, so this is said of encodings below `2 ^ 64` bytes.
-/

namespace StateTransition.Rlp

def lead (length : Nat) : Nat := if length ≤ 55 then length else 55 + (Bytes.minimal length).length

def longLength (length : Nat) : Bytes := if length ≤ 55 then [] else Bytes.minimal length

theorem header_eq (base length : Nat) :
    header base length = UInt8.ofNat (base + lead length) :: longLength length := by
  by_cases short : length ≤ 55
  · rw [header, lead, longLength, if_pos short, if_pos short, if_pos short]
  · rw [header, lead, longLength, if_neg short, if_neg short, if_neg short, ← Nat.add_assoc]

theorem lead_lt {length : Nat} (fits : length < UInt64.size) : lead length < 64 := by
  rw [lead]
  split
  · omega
  · have := Bytes.length_minimal_le fits
    omega

theorem toNat_lead {base length : Nat} (low : base ≤ 192) (fits : length < UInt64.size) :
    (UInt8.ofNat (base + lead length)).toNat = base + lead length := by
  have := lead_lt fits
  rw [UInt8.toNat_ofNat', Nat.mod_eq_of_lt (by omega)]

theorem eq_of_longLength {left right : Nat} {rest other : Bytes} (leads : lead left = lead right)
    (same : longLength left ++ rest = longLength right ++ other) : left = right ∧ rest = other := by
  rw [lead, lead] at leads
  rw [longLength, longLength] at same
  by_cases shortLeft : left ≤ 55 <;> by_cases shortRight : right ≤ 55
  · rw [if_pos shortLeft, if_pos shortRight] at leads same
    exact ⟨leads, same⟩
  · have positive := List.length_pos_iff.mpr (Bytes.minimal_ne_nil (show 0 < right by omega))
    rw [if_pos shortLeft, if_neg shortRight] at leads
    omega
  · have positive := List.length_pos_iff.mpr (Bytes.minimal_ne_nil (show 0 < left by omega))
    rw [if_neg shortLeft, if_pos shortRight] at leads
    omega
  · rw [if_neg shortLeft, if_neg shortRight] at leads same
    obtain ⟨digits, tails⟩ := List.append_inj same (by omega)
    exact ⟨Bytes.minimal_injective digits, tails⟩

theorem header_append_injective {base left right : Nat} {rest other : Bytes} (low : base ≤ 192)
    (leftFits : left < UInt64.size) (rightFits : right < UInt64.size)
    (same : header base left ++ rest = header base right ++ other) :
    left = right ∧ rest = other := by
  rw [header_eq, header_eq, List.cons_append, List.cons_append] at same
  obtain ⟨firsts, tails⟩ := List.cons.inj same
  have leads := congrArg UInt8.toNat firsts
  rw [toNat_lead low leftFits, toNat_lead low rightFits] at leads
  exact eq_of_longLength (by omega) tails

/-- A byte below 128 stands for itself, without a header. -/
def StandsAlone (bytes : Bytes) : Prop := ∃ byte, bytes = [byte] ∧ byte < 128

theorem encodeData_of_standsAlone {bytes : Bytes} (alone : StandsAlone bytes) :
    encodeData bytes = bytes := by
  obtain ⟨byte, rfl, small⟩ := alone
  rw [encodeData, if_pos small]

theorem encodeData_of_not_standsAlone {bytes : Bytes} (headed : ¬ StandsAlone bytes) :
    encodeData bytes = header 128 bytes.length ++ bytes := by
  match bytes with
  | [] => rfl
  | [byte] =>
    rw [encodeData, if_neg fun small => headed ⟨byte, rfl, small⟩]
    rfl
  | _ :: _ :: _ => rfl

theorem first_of_standsAlone {bytes : Bytes} (alone : StandsAlone bytes) :
    ∃ first tail, encodeData bytes = first :: tail ∧ first.toNat < 128 := by
  obtain ⟨byte, rfl, small⟩ := id alone
  exact ⟨byte, [], encodeData_of_standsAlone alone, UInt8.lt_iff_toNat_lt.mp small⟩

theorem first_of_header {base length : Nat} (low : base ≤ 192) (fits : length < UInt64.size) :
    ∃ first tail, header base length = first :: tail ∧ base ≤ first.toNat ∧
      first.toNat < base + 64 := by
  have := lead_lt fits
  refine ⟨_, _, header_eq base length, ?_⟩
  rw [toNat_lead low fits]
  omega

theorem first_of_encodeData {bytes : Bytes} (fits : bytes.length < UInt64.size) :
    ∃ first tail, encodeData bytes = first :: tail ∧ first.toNat < 192 ∧
      (first.toNat < 128 ↔ StandsAlone bytes) := by
  by_cases alone : StandsAlone bytes
  · obtain ⟨first, tail, starts, below⟩ := first_of_standsAlone alone
    exact ⟨first, tail, starts, by omega, by simp [alone, below]⟩
  · obtain ⟨first, tail, starts, above, below⟩ := first_of_header (show 128 ≤ 192 by decide) fits
    refine ⟨first, tail ++ bytes, ?_, below, ?_⟩
    · rw [encodeData_of_not_standsAlone alone, starts, List.cons_append]
    · simp only [alone, iff_false]
      omega

theorem encodeData_append_injective {left right rest other : Bytes}
    (leftFits : left.length < UInt64.size) (rightFits : right.length < UInt64.size)
    (same : encodeData left ++ rest = encodeData right ++ other) :
    left = right ∧ rest = other := by
  obtain ⟨first, tail, starts, _, aloneLeft⟩ := first_of_encodeData leftFits
  obtain ⟨second, back, begins, _, aloneRight⟩ := first_of_encodeData rightFits
  have firsts : first = second := by
    rw [starts, begins] at same
    exact (List.cons.inj same).1
  have alike : StandsAlone left ↔ StandsAlone right := by
    rw [← aloneLeft, ← aloneRight, firsts]
  by_cases alone : StandsAlone left
  · rw [encodeData_of_standsAlone alone, encodeData_of_standsAlone (alike.mp alone)] at same
    obtain ⟨byte, rfl, _⟩ := alone
    obtain ⟨last, rfl, _⟩ := alike.mp ⟨byte, rfl, by assumption⟩
    exact List.append_inj same rfl
  · rw [encodeData_of_not_standsAlone alone, encodeData_of_not_standsAlone (alike.not.mp alone),
      List.append_assoc, List.append_assoc] at same
    obtain ⟨lengths, tails⟩ := header_append_injective (by decide) leftFits rightFits same
    exact List.append_inj tails lengths

theorem length_le_encodeData (bytes : Bytes) : bytes.length ≤ (encodeData bytes).length := by
  by_cases alone : StandsAlone bytes
  · rw [encodeData_of_standsAlone alone]
  · rw [encodeData_of_not_standsAlone alone, List.length_append]
    omega

theorem encodeData_ne_list {bytes rest other : Bytes} {items : List Item}
    (fits : bytes.length < UInt64.size) (listFits : (Item.encodeAll items).length < UInt64.size) :
    (Item.data bytes).encode ++ rest ≠ (Item.list items).encode ++ other := by
  intro same
  obtain ⟨first, tail, starts, below, _⟩ := first_of_encodeData fits
  obtain ⟨second, back, begins, above, _⟩ := first_of_header (Nat.le_refl 192) listFits
  rw [Item.encode, Item.encode, starts] at same
  simp only [begins, List.cons_append, List.cons.injEq] at same
  rw [same.1] at below
  omega

theorem Item.encode_ne_nil (item : Item) : item.encode ≠ [] := by
  cases item with
  | data bytes =>
    rw [Item.encode]
    by_cases alone : StandsAlone bytes
    · obtain ⟨byte, rfl, _⟩ := id alone
      rw [encodeData_of_standsAlone alone]
      exact List.cons_ne_nil _ _
    · rw [encodeData_of_not_standsAlone alone, header_eq]
      exact List.cons_ne_nil _ _
  | list items =>
    rw [Item.encode]
    simp [header_eq]

theorem length_le_encode_list (items : List Item) :
    (Item.encodeAll items).length ≤ (Item.list items).encode.length := by
  rw [Item.encode, List.length_append]
  omega

mutual

/-- An item is read off the front of whatever follows it. -/
theorem Item.encode_append_injective : ∀ (left right : Item) (rest other : Bytes),
    left.encode.length < UInt64.size → right.encode.length < UInt64.size →
      left.encode ++ rest = right.encode ++ other → left = right ∧ rest = other
  | .data left, .data right, rest, other, leftFits, rightFits, same => by
    rw [Item.encode] at leftFits rightFits
    rw [Item.encode, Item.encode] at same
    have leftLe := length_le_encodeData left
    have rightLe := length_le_encodeData right
    obtain ⟨bytes, rests⟩ := encodeData_append_injective (by omega) (by omega) same
    exact ⟨congrArg Item.data bytes, rests⟩
  | .data left, .list right, rest, other, leftFits, rightFits, same => by
    rw [Item.encode] at leftFits
    have leftLe := length_le_encodeData left
    have rightLe := length_le_encode_list right
    exact absurd same (encodeData_ne_list (by omega) (by omega))
  | .list left, .data right, rest, other, leftFits, rightFits, same => by
    rw [Item.encode] at rightFits
    have leftLe := length_le_encode_list left
    have rightLe := length_le_encodeData right
    exact absurd same.symm (encodeData_ne_list (by omega) (by omega))
  | .list left, .list right, rest, other, leftFits, rightFits, same => by
    have leftLe := length_le_encode_list left
    have rightLe := length_le_encode_list right
    rw [Item.encode, Item.encode, List.append_assoc, List.append_assoc] at same
    obtain ⟨lengths, tails⟩ := header_append_injective (Nat.le_refl 192) (by omega) (by omega) same
    obtain ⟨payloads, rests⟩ := List.append_inj tails lengths
    exact ⟨congrArg Item.list (Item.encodeAll_injective left right (by omega) payloads), rests⟩

theorem Item.encodeAll_injective : ∀ left right : List Item,
    (Item.encodeAll left).length < UInt64.size →
      Item.encodeAll left = Item.encodeAll right → left = right
  | [], [], _, _ => rfl
  | [], item :: rest, _, same => by
    rw [Item.encodeAll, Item.encodeAll] at same
    exact absurd (List.append_eq_nil_iff.mp same.symm).1 item.encode_ne_nil
  | item :: rest, [], _, same => by
    rw [Item.encodeAll, Item.encodeAll] at same
    exact absurd (List.append_eq_nil_iff.mp same).1 item.encode_ne_nil
  | left :: rest, right :: others, fits, same => by
    rw [Item.encodeAll, List.length_append] at fits
    rw [Item.encodeAll, Item.encodeAll] at same
    have lengths := congrArg List.length same
    rw [List.length_append, List.length_append] at lengths
    obtain ⟨items, tails⟩ :=
      Item.encode_append_injective left right _ _ (by omega) (by omega) same
    rw [items, Item.encodeAll_injective rest others (by omega) tails]

end

theorem Item.list_encode_injective {left right : List Item}
    (fits : (Item.list left).encode.length < UInt64.size)
    (same : (Item.list left).encode = (Item.list right).encode) : left = right := by
  have alike := Item.encode_append_injective (.list left) (.list right) [] [] fits
    (by rw [← same]; exact fits) (by rw [same])
  exact Item.list.inj alike.1

theorem Item.list_encode_ne_cons {items : List Item} {byte : UInt8} {rest : Bytes}
    (fits : (Item.list items).encode.length < UInt64.size) (below : byte.toNat < 192) :
    (Item.list items).encode ≠ byte :: rest := by
  intro same
  have short := Nat.lt_of_le_of_lt (length_le_encode_list items) fits
  obtain ⟨first, tail, begins, above, _⟩ := first_of_header (Nat.le_refl 192) short
  rw [Item.encode] at same
  simp only [begins, List.cons_append, List.cons.injEq] at same
  rw [same.1] at above
  omega

theorem number_injective {left right : Nat} (same : number left = number right) : left = right :=
  Bytes.minimal_injective (Item.data.inj same)

end StateTransition.Rlp
