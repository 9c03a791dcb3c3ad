import StateTransition.Evm.FrameStack
import StateTransition.Proofs.Transaction.Payload
import StateTransition.Proofs.Word.Spelling

/-!
Where a contract comes from and its address. What is hashed tells the creator with its nonce, or the
creator with the salt and the hash of the init code, and no string is hashed for both; so contracts of
different origins share an address only where the hash collides.
-/

namespace StateTransition

namespace Rlp

theorem length_encodeData_le {bytes : Bytes} (short : bytes.length ≤ 55) :
    (encodeData bytes).length ≤ bytes.length + 1 := by
  by_cases alone : StandsAlone bytes
  · rw [encodeData_of_standsAlone alone]
    omega
  · rw [encodeData_of_not_standsAlone alone, header_eq, longLength, if_pos short]
    simp

theorem list_encode_of_short {items : List Item} (short : (Item.encodeAll items).length ≤ 55) :
    (Item.list items).encode =
      UInt8.ofNat (192 + (Item.encodeAll items).length) :: Item.encodeAll items := by
  rw [Item.encode, header, if_pos short]
  rfl

end Rlp

namespace Evm

theorem length_originItems_le (creator : Address) (nonce : UInt64) :
    (Rlp.Item.encodeAll [.data creator.toBytes, Rlp.number nonce.toNat]).length ≤ 30 := by
  have digits : (Bytes.minimal nonce.toNat).length ≤ 8 := Bytes.length_minimal_le nonce.toNat_lt
  have address : creator.toBytes.length = 20 := creator.length_toBytes
  have first : (Rlp.encodeData creator.toBytes).length ≤ creator.toBytes.length + 1 :=
    Rlp.length_encodeData_le (by omega)
  have second : (Rlp.encodeData (Bytes.minimal nonce.toNat)).length ≤
      (Bytes.minimal nonce.toNat).length + 1 := Rlp.length_encodeData_le (by omega)
  simp only [Rlp.Item.encodeAll, Rlp.Item.encode, Rlp.number, List.length_append, List.length_nil]
  omega

theorem createOrigin_eq (creator : Address) (nonce : UInt64) :
    ∃ payload : Bytes, payload.length ≤ 30 ∧
      createOrigin creator nonce = UInt8.ofNat (192 + payload.length) :: payload := by
  have short := length_originItems_le creator nonce
  exact ⟨_, short, Rlp.list_encode_of_short (Nat.le_trans short (by decide))⟩

theorem createOrigin_injective {left right : Address} {first second : UInt64}
    (same : createOrigin left first = createOrigin right second) :
    left = right ∧ first = second := by
  have fits : (createOrigin left first).length < UInt64.size := by
    obtain ⟨payload, short, spelled⟩ := createOrigin_eq left first
    rw [spelled, List.length_cons]
    exact Nat.lt_of_le_of_lt (Nat.succ_le_succ short) (by decide)
  have items := Rlp.Item.list_encode_injective fits same
  simp only [List.cons.injEq, Rlp.Item.data.injEq, and_true] at items
  exact ⟨Address.toBytes_injective items.1, Transaction.gas_injective items.2⟩

theorem saltedOrigin_injective {left right : Address} {salt other : Word} {code otherCode : Bytes}
    (same : saltedOrigin left salt code = saltedOrigin right other otherCode) :
    left = right ∧ salt = other ∧ keccak256 code = keccak256 otherCode := by
  obtain ⟨fronts, hashes⟩ := List.append_inj (List.cons.inj same).2 (by simp)
  obtain ⟨creators, salts⟩ := List.append_inj fronts (by simp)
  have words : salt = other := by
    rw [← Word.ofBytes_toBytes salt, salts, Word.ofBytes_toBytes]
  exact ⟨Address.toBytes_injective creators, words, Hash256.toBytes_injective hashes⟩

/-- The list of creator and nonce starts with a byte below 223, a salted origin with 255. -/
theorem createOrigin_ne_saltedOrigin (creator : Address) (nonce : UInt64) (other : Address)
    (salt : Word) (code : Bytes) : createOrigin creator nonce ≠ saltedOrigin other salt code := by
  intro same
  obtain ⟨payload, short, spelled⟩ := createOrigin_eq creator nonce
  rw [spelled] at same
  have first : (UInt8.ofNat (192 + payload.length)).toNat = 255 :=
    congrArg UInt8.toNat (List.cons.inj same).1
  rw [UInt8.toNat_ofNat', Nat.mod_eq_of_lt (by omega)] at first
  omega

/-- What the address of a new contract is made from. -/
inductive ContractOrigin where
  | counted (creator : Address) (nonce : UInt64)
  | salted (creator : Address) (salt : Word) (initCode : Bytes)
  deriving DecidableEq, Repr

namespace ContractOrigin

def address : ContractOrigin → Address
  | counted creator nonce => createAddress creator nonce
  | salted creator salt initCode => saltedAddress creator salt initCode

def hashed : ContractOrigin → Bytes
  | counted creator nonce => createOrigin creator nonce
  | salted creator salt initCode => saltedOrigin creator salt initCode

theorem address_eq (origin : ContractOrigin) :
    origin.address = addressOfHash (keccak256 origin.hashed) := by
  cases origin <;> rfl

end ContractOrigin

def CreateRequest.origin (journal : Journal) (request : CreateRequest) : ContractOrigin :=
  match request.salt with
  | none => .counted request.caller (journal.nonce request.caller)
  | some salt => .salted request.caller salt request.initCode

theorem createTarget_eq (journal : Journal) (request : CreateRequest) :
    createTarget journal request = (request.origin journal).address := by
  rw [createTarget, CreateRequest.origin]
  cases request.salt <;> rfl

/-- The address is the end of the hash, from its thirteenth byte on. -/
theorem toBytes_addressOfHash (hash : Hash256) :
    (addressOfHash hash).toBytes = hash.toBytes.drop 12 := by
  have low : (addressOfHash hash).bits.toNat = hash.bits.toNat % 256 ^ 20 :=
    BitVec.toNat_setWidth 160 hash.bits
  rw [Address.toBytes, low, Hash256.toBytes]
  exact (Bytes.drop_toBigEndian 12 20 _).symm

/-- Two different strings whose hashes end in the same 20 bytes. -/
def HashesMeet (left right : Bytes) : Prop :=
  left ≠ right ∧ (keccak256 left).toBytes.drop 12 = (keccak256 right).toBytes.drop 12

theorem addressOfHash_eq_iff {left right : Hash256} :
    addressOfHash left = addressOfHash right ↔
      left.toBytes.drop 12 = right.toBytes.drop 12 := by
  rw [← toBytes_addressOfHash, ← toBytes_addressOfHash]
  exact ⟨congrArg Address.toBytes, fun same => Address.toBytes_injective same⟩

/-- Different origins that are hashed alike differ in the init code only, and its hashes meet. -/
theorem ContractOrigin.eq_of_hashed {left right : ContractOrigin}
    (same : left.hashed = right.hashed) :
    left = right ∨ ∃ creator salt code other, left = .salted creator salt code ∧
      right = .salted creator salt other ∧ code ≠ other ∧ keccak256 code = keccak256 other := by
  match left, right with
  | .counted creator nonce, .counted other second =>
    obtain ⟨rfl, rfl⟩ := createOrigin_injective same
    exact .inl rfl
  | .counted creator nonce, .salted other salt code =>
    exact absurd same (createOrigin_ne_saltedOrigin creator nonce other salt code)
  | .salted creator salt code, .counted other nonce =>
    exact absurd same.symm (createOrigin_ne_saltedOrigin other nonce creator salt code)
  | .salted creator salt code, .salted other second third =>
    obtain ⟨rfl, rfl, hashes⟩ := saltedOrigin_injective same
    by_cases codes : code = third
    · exact .inl (by rw [codes])
    · exact .inr ⟨creator, salt, code, third, rfl, rfl, codes, hashes⟩

/-- What is hashed for a new contract tells its creator and nonce, or its creator, salt and the hash
of its init code, and which of the two it was. The address of a contract is the last 20 bytes of the
hash of its origin. Contracts share one if they have one origin, if the hashes of their different
origins end in the same 20 bytes, or if their init codes have one hash. -/
theorem origins_meet_only_by_hash :
    (∀ left first right second, createOrigin left first = createOrigin right second ↔
      left = right ∧ first = second) ∧
    (∀ left salt code right other otherCode,
      saltedOrigin left salt code = saltedOrigin right other otherCode ↔
        left = right ∧ salt = other ∧ keccak256 code = keccak256 otherCode) ∧
    (∀ creator nonce other salt code,
      createOrigin creator nonce ≠ saltedOrigin other salt code) ∧
    (∀ journal request,
      createTarget journal request = (CreateRequest.origin journal request).address) ∧
    (∀ origin : ContractOrigin,
      origin.address.toBytes = (keccak256 origin.hashed).toBytes.drop 12) ∧
    ∀ left right : ContractOrigin, left.address = right.address ↔
      left = right ∨ HashesMeet left.hashed right.hashed ∨
        ∃ creator salt code other, left = .salted creator salt code ∧
          right = .salted creator salt other ∧ code ≠ other ∧ keccak256 code = keccak256 other := by
  refine ⟨?_, ?_, createOrigin_ne_saltedOrigin, createTarget_eq, ?_, ?_⟩
  · intro left first right second
    refine ⟨createOrigin_injective, ?_⟩
    rintro ⟨rfl, rfl⟩
    rfl
  · intro left salt code right other otherCode
    refine ⟨saltedOrigin_injective, ?_⟩
    rintro ⟨rfl, rfl, hashes⟩
    rw [saltedOrigin, hashes]
    rfl
  · intro origin
    rw [origin.address_eq, toBytes_addressOfHash]
  · intro left right
    constructor
    · intro shared
      rw [ContractOrigin.address_eq, ContractOrigin.address_eq, addressOfHash_eq_iff] at shared
      by_cases same : left.hashed = right.hashed
      · exact (ContractOrigin.eq_of_hashed same).imp_right .inr
      · exact .inr (.inl ⟨same, shared⟩)
    · rintro (rfl | ⟨_, shared⟩ | ⟨creator, salt, code, other, rfl, rfl, _, hashes⟩)
      · rfl
      · rw [ContractOrigin.address_eq, ContractOrigin.address_eq, addressOfHash_eq_iff]
        exact shared
      · rw [ContractOrigin.address_eq, ContractOrigin.hashed, saltedOrigin, hashes]
        rfl

end Evm

end StateTransition
