import StateTransition.Proofs.Rlp.Encoding
import StateTransition.Transaction

namespace StateTransition

theorem Address.toBytes_injective {left right : Address} (same : left.toBytes = right.toBytes) :
    left = right := by
  have numbers : left.bits.toNat = right.bits.toNat :=
    Bytes.toBigEndian_injective left.bits.isLt right.bits.isLt same
  exact Key.rank_injective numbers

theorem Hash256.toBytes_injective {left right : Hash256} (same : left.toBytes = right.toBytes) :
    left = right := by
  have numbers : left.bits.toNat = right.bits.toNat :=
    Bytes.toBigEndian_injective left.bits.isLt right.bits.isLt same
  cases left
  cases right
  exact congrArg Hash256.mk (BitVec.eq_of_toNat_eq numbers)

namespace Transaction

open Rlp (number number_injective)

theorem gas_injective {left right : UInt64} (same : number left.toNat = number right.toNat) :
    left = right :=
  UInt64.toNat_inj.mp (number_injective same)

theorem word_injective {left right : Word} (same : number left.toNat = number right.toNat) :
    left = right :=
  BitVec.eq_of_toNat_eq (number_injective same)

theorem recipientItem_injective {left right : Transaction}
    (same : left.recipientItem = right.recipientItem) : left.recipient = right.recipient := by
  have spelled : left.recipient.elim [] Address.toBytes = right.recipient.elim [] Address.toBytes :=
    Rlp.Item.data.inj same
  have full (address : Address) : address.toBytes ≠ [] :=
    List.ne_nil_of_length_eq_add_one (Bytes.length_toBigEndian 20 _)
  cases leftTo : left.recipient with
  | none =>
    cases rightTo : right.recipient with
    | none => rfl
    | some address =>
      rw [leftTo, rightTo] at spelled
      exact absurd spelled.symm (full address)
  | some address =>
    cases rightTo : right.recipient with
    | none =>
      rw [leftTo, rightTo] at spelled
      exact absurd spelled (full address)
    | some other =>
      rw [leftTo, rightTo] at spelled
      rw [Address.toBytes_injective spelled]

theorem accessListEntry_injective {left right : AccessListItem}
    (same : accessListEntry left = accessListEntry right) : left = right := by
  simp only [accessListEntry, Rlp.Item.list.injEq, List.cons.injEq, Rlp.Item.data.injEq,
    and_true] at same
  obtain ⟨addresses, keys⟩ := same
  have apart (one other : Hash256)
      (spelled : Rlp.Item.data one.toBytes = .data other.toBytes) : one = other :=
    Hash256.toBytes_injective (Rlp.Item.data.inj spelled)
  cases left
  cases right
  cases Address.toBytes_injective addresses
  cases (List.map_inj_right apart).mp keys
  rfl

theorem accessList_injective {left right : List AccessListItem}
    (same : Rlp.Item.list (left.map accessListEntry) = .list (right.map accessListEntry)) :
    left = right :=
  (List.map_inj_right fun _ _ => accessListEntry_injective).mp (Rlp.Item.list.inj same)

theorem eq_of_parts {left right : Transaction}
    (nonces : number left.nonce.toNat = number right.nonce.toNat)
    (limits : number left.gasLimit.toNat = number right.gasLimit.toNat)
    (calls : left.callItems = right.callItems) (kinds : left.kind = right.kind) :
    left = right := by
  simp only [callItems, List.cons.injEq, and_true] at calls
  obtain ⟨recipients, values, datas⟩ := calls
  have recipient := recipientItem_injective recipients
  have data := Rlp.Item.data.inj datas
  cases left
  cases right
  cases gas_injective nonces
  cases gas_injective limits
  cases recipient
  cases word_injective values
  cases data
  cases kinds
  rfl

theorem envelope_lt {tx : Transaction} {byte : UInt8} (behind : tx.envelope = some byte) :
    byte.toNat < 192 := by
  rw [envelope] at behind
  split at behind
  · cases behind
  · cases behind
    rw [typeNumber]
    split <;> decide

theorem enveloped_injective {left right : Transaction} {items others : List Rlp.Item}
    (fits : (left.enveloped items).length < UInt64.size)
    (same : left.enveloped items = right.enveloped others) :
    left.envelope = right.envelope ∧ items = others := by
  have rightFits := fits
  rw [same] at rightFits
  rw [enveloped] at fits rightFits
  rw [enveloped, enveloped] at same
  cases leftMark : left.envelope with
  | none =>
    rw [leftMark] at fits same
    cases rightMark : right.envelope with
    | none =>
      rw [rightMark] at same
      exact ⟨rfl, Rlp.Item.list_encode_injective fits same⟩
    | some byte =>
      rw [rightMark] at same
      exact absurd same (Rlp.Item.list_encode_ne_cons fits (envelope_lt rightMark))
  | some byte =>
    rw [leftMark] at fits same
    cases rightMark : right.envelope with
    | none =>
      rw [rightMark] at rightFits same
      exact absurd same.symm (Rlp.Item.list_encode_ne_cons rightFits (envelope_lt leftMark))
    | some other =>
      rw [rightMark] at same
      obtain ⟨bytes, lists⟩ := List.cons.inj same
      have listFits : (Rlp.Item.list items).encode.length < UInt64.size :=
        Nat.lt_of_succ_lt fits
      exact ⟨congrArg some bytes, Rlp.Item.list_encode_injective listFits lists⟩

/-- The six fields of a legacy transaction tell all of it but its chain, whatever follows them. -/
theorem legacyFields_injective {left right : Transaction} {leftPrice rightPrice : Word}
    {leftChain rightChain : Option UInt64} {marks others : List Rlp.Item}
    (leftKind : left.kind = .legacy leftPrice leftChain)
    (rightKind : right.kind = .legacy rightPrice rightChain)
    (same : left.fields ++ marks = right.fields ++ others) :
    (leftChain = rightChain → left = right) ∧ marks = others := by
  simp only [fields, leftKind, rightKind] at same
  obtain ⟨numbers, marks⟩ := List.append_inj same rfl
  obtain ⟨numbers, calls⟩ := List.append_inj numbers rfl
  simp only [List.cons.injEq, and_true] at numbers
  obtain ⟨nonces, prices, limits⟩ := numbers
  refine ⟨fun chains => ?_, marks⟩
  apply eq_of_parts nonces limits calls
  rw [leftKind, rightKind, word_injective prices, chains]

theorem accessListFields_injective {left right : Transaction} {leftChain rightChain : UInt64}
    {leftPrice rightPrice : Word} {leftItems rightItems : List AccessListItem}
    {marks others : List Rlp.Item}
    (leftKind : left.kind = .accessList leftChain leftPrice leftItems)
    (rightKind : right.kind = .accessList rightChain rightPrice rightItems)
    (same : left.fields ++ marks = right.fields ++ others) : left = right ∧ marks = others := by
  simp only [fields, leftKind, rightKind] at same
  obtain ⟨numbers, marks⟩ := List.append_inj same rfl
  obtain ⟨numbers, lists⟩ := List.append_inj numbers rfl
  obtain ⟨numbers, calls⟩ := List.append_inj numbers rfl
  simp only [List.cons.injEq, and_true] at numbers lists
  obtain ⟨chains, nonces, prices, limits⟩ := numbers
  refine ⟨?_, marks⟩
  apply eq_of_parts nonces limits calls
  rw [leftKind, rightKind, gas_injective chains, word_injective prices, accessList_injective lists]

theorem dynamicFeeFields_injective {left right : Transaction} {leftChain rightChain : UInt64}
    {leftTip rightTip leftCap rightCap : Word} {leftItems rightItems : List AccessListItem}
    {marks others : List Rlp.Item}
    (leftKind : left.kind = .dynamicFee leftChain leftTip leftCap leftItems)
    (rightKind : right.kind = .dynamicFee rightChain rightTip rightCap rightItems)
    (same : left.fields ++ marks = right.fields ++ others) : left = right ∧ marks = others := by
  simp only [fields, leftKind, rightKind] at same
  obtain ⟨numbers, marks⟩ := List.append_inj same rfl
  obtain ⟨numbers, lists⟩ := List.append_inj numbers rfl
  obtain ⟨numbers, calls⟩ := List.append_inj numbers rfl
  simp only [List.cons.injEq, and_true] at numbers lists
  obtain ⟨chains, nonces, tips, caps, limits⟩ := numbers
  refine ⟨?_, marks⟩
  apply eq_of_parts nonces limits calls
  rw [leftKind, rightKind, gas_injective chains, word_injective tips, word_injective caps,
    accessList_injective lists]

theorem legacy_injective {left right : Transaction} {leftPrice rightPrice : Word}
    {leftChain rightChain : Option UInt64} (leftKind : left.kind = .legacy leftPrice leftChain)
    (rightKind : right.kind = .legacy rightPrice rightChain)
    (same : left.fields ++ left.chainMark = right.fields ++ right.chainMark) : left = right := by
  obtain ⟨determined, marks⟩ := legacyFields_injective leftKind rightKind same
  apply determined
  simp only [chainMark, leftKind, rightKind] at marks
  cases leftChain <;> cases rightChain
  · rfl
  · cases marks
  · cases marks
  · rw [gas_injective (List.cons.inj marks).1]

theorem accessListKind_injective {left right : Transaction} {leftChain rightChain : UInt64}
    {leftPrice rightPrice : Word} {leftItems rightItems : List AccessListItem}
    (leftKind : left.kind = .accessList leftChain leftPrice leftItems)
    (rightKind : right.kind = .accessList rightChain rightPrice rightItems)
    (same : left.fields ++ left.chainMark = right.fields ++ right.chainMark) : left = right :=
  (accessListFields_injective leftKind rightKind same).1

theorem dynamicFee_injective {left right : Transaction} {leftChain rightChain : UInt64}
    {leftTip rightTip leftCap rightCap : Word} {leftItems rightItems : List AccessListItem}
    (leftKind : left.kind = .dynamicFee leftChain leftTip leftCap leftItems)
    (rightKind : right.kind = .dynamicFee rightChain rightTip rightCap rightItems)
    (same : left.fields ++ left.chainMark = right.fields ++ right.chainMark) : left = right :=
  (dynamicFeeFields_injective leftKind rightKind same).1

/-- No two transactions, of one kind or of two, have the same signing payload. Lengths of data and
access lists are bounded by nothing but the format, whose lengths take at most eight bytes. -/
theorem signingPayload_injective {left right : Transaction}
    (fits : left.signingPayload.length < UInt64.size)
    (same : left.signingPayload = right.signingPayload) : left = right := by
  obtain ⟨envelopes, items⟩ := enveloped_injective fits same
  cases leftKind : left.kind with
  | legacy =>
    cases rightKind : right.kind with
    | legacy => exact legacy_injective leftKind rightKind items
    | accessList | dynamicFee =>
      simp [envelope, isLegacy, typeNumber, leftKind, rightKind] at envelopes
  | accessList =>
    cases rightKind : right.kind with
    | accessList => exact accessListKind_injective leftKind rightKind items
    | legacy | dynamicFee =>
      simp [envelope, isLegacy, typeNumber, leftKind, rightKind] at envelopes
  | dynamicFee =>
    cases rightKind : right.kind with
    | dynamicFee => exact dynamicFee_injective leftKind rightKind items
    | legacy | accessList =>
      simp [envelope, isLegacy, typeNumber, leftKind, rightKind] at envelopes

def listedCall : Transaction where
  nonce := 7
  gasLimit := 60000
  recipient := some ⟨0x2000#160⟩
  value := 1000#256
  data := Bytes.ofText "longer than the fifty-five bytes that a header of one byte can count"
  kind := .accessList 1 10#256 [⟨⟨0x2000#160⟩, [⟨0#256⟩, ⟨1#256⟩]⟩, ⟨⟨0x3000#160⟩, []⟩]

def respelledCall : Transaction :=
  { listedCall with
    data := Bytes.ofText "longer than the fifty-five bytes " ++
      Bytes.ofText "that a header of one byte can count"
    kind := .accessList 1 10#256
      ([⟨⟨0x2000#160⟩, [⟨0#256⟩] ++ [⟨1#256⟩]⟩] ++ [⟨⟨0x3000#160⟩, []⟩]) }

theorem signingPayload_injective_listedCall :
    listedCall.signingPayload.length < UInt64.size ∧
      listedCall.signingPayload = respelledCall.signingPayload ∧ listedCall = respelledCall := by
  have fits : listedCall.signingPayload.length < UInt64.size := by decide +kernel
  have same : listedCall.signingPayload = respelledCall.signingPayload := by decide +kernel
  exact ⟨fits, same, signingPayload_injective fits same⟩

end Transaction

end StateTransition
