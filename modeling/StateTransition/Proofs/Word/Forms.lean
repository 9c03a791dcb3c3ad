import StateTransition.Proofs.Rlp.Decoding
import StateTransition.Proofs.Text.Hex
import StateTransition.Proofs.Word.Spelling

/-!
The forms of an address and of a hash: bytes, hexadecimal text, word and encoded item. What the forms
of one type owe each other is stated once, as `Forms.Agree`. It follows from how each form rests on
the bytes, and this is all that is shown for each of the two types.
-/

namespace StateTransition

/-- The forms of the values of a type: how they are written and how they are read back. -/
structure Forms (α ε : Type) where
  width : Nat
  toBytes : α → Bytes
  ofBytes? : Bytes → Except ε α
  hexText : α → String
  ofHex? : String → Except ε α
  toWord : α → Word
  ofWord : Word → α
  encode : α → Bytes
  decode : Bytes → Except Rlp.DecodeError α

namespace Forms

variable {α ε : Type} [LT α]

/-- Every form is read back as the value that was written, and read in no other way: a text by its
digits, a word by its low bytes, an item by its content. The order of the values is that of their
words. -/
structure Agree (forms : Forms α ε) : Prop where
  length_toBytes (value : α) : (forms.toBytes value).length = forms.width
  ofBytes?_iff (bytes : Bytes) (value : α) :
    forms.ofBytes? bytes = .ok value ↔ forms.toBytes value = bytes
  ofHex?_iff (text : String) (value : α) :
    forms.ofHex? text = .ok value ↔
      ∃ digits, Quantity.Unmarks text.toList digits ∧ digits.length = 2 * forms.width ∧
        Hex.SpellsBytes digits (forms.toBytes value)
  ofHex?_hexText (value : α) : forms.ofHex? (forms.hexText value) = .ok value
  ofWord_toWord (value : α) : forms.ofWord (forms.toWord value) = value
  toWord_ofWord (word : Word) :
    (forms.toWord (forms.ofWord word)).toNat = word.toNat % 2 ^ (8 * forms.width)
  decode_encode (value : α) (rest : Bytes) : forms.decode (forms.encode value ++ rest) = .ok value
  decode_iff (input : Bytes) (value : α) :
    forms.decode input = .ok value ↔ Rlp.Leads (forms.toBytes value) input
  lt_iff (left right : α) : left < right ↔ forms.toWord left < forms.toWord right

structure RestOnBytes (forms : Forms α ε) : Prop where
  few : forms.width ≤ 55
  length_toBytes (value : α) : (forms.toBytes value).length = forms.width
  ofBytes?_iff (bytes : Bytes) (value : α) :
    forms.ofBytes? bytes = .ok value ↔ forms.toBytes value = bytes
  hexText_eq (value : α) : forms.hexText value = Hex.encodeMarked (forms.toBytes value)
  ofHex?_iff (text : String) (value : α) :
    forms.ofHex? text = .ok value ↔
      ∃ bytes, Hex.decodeText text = .ok bytes ∧ forms.ofBytes? bytes = .ok value
  toNat_toWord (value : α) : (forms.toWord value).toNat = (forms.toBytes value).ofBigEndian
  toWord_ofWord (word : Word) :
    (forms.toWord (forms.ofWord word)).toNat = word.toNat % 2 ^ (8 * forms.width)
  encode_eq (value : α) : forms.encode value = Rlp.encodeData (forms.toBytes value)
  decode_iff (input : Bytes) (value : α) :
    forms.decode input = .ok value ↔
      ∃ bytes, Rlp.decodeData input = .ok bytes ∧ forms.ofBytes? bytes = .ok value
  lt_iff (left right : α) : left < right ↔ forms.toBytes left < forms.toBytes right

namespace RestOnBytes

variable {forms : Forms α ε} (rest : forms.RestOnBytes)

include rest

theorem toBytes_injective {left right : α} (same : forms.toBytes left = forms.toBytes right) :
    left = right := by
  have first := (rest.ofBytes?_iff _ left).mpr rfl
  have second := (rest.ofBytes?_iff _ right).mpr rfl
  rw [same, second] at first
  exact (Except.ok.inj first).symm

theorem toWord_injective {left right : α} (same : forms.toWord left = forms.toWord right) :
    left = right := by
  apply rest.toBytes_injective
  rw [← Bytes.toBigEndian_ofBigEndian (forms.toBytes left), rest.length_toBytes,
    ← rest.toNat_toWord, same, rest.toNat_toWord, ← rest.length_toBytes right,
    Bytes.toBigEndian_ofBigEndian]

theorem ofWord_toWord (value : α) : forms.ofWord (forms.toWord value) = value := by
  have below : (forms.toWord value).toNat < 2 ^ (8 * forms.width) :=
    calc
      (forms.toWord value).toNat = (forms.toBytes value).ofBigEndian := rest.toNat_toWord value
      _ < 2 ^ (8 * (forms.toBytes value).length) := Bytes.ofBigEndian_lt_two_pow _
      _ = 2 ^ (8 * forms.width) := by rw [rest.length_toBytes]
  -- nothing is cut off, and a value is told by its word
  apply rest.toWord_injective
  apply BitVec.eq_of_toNat_eq
  rw [rest.toWord_ofWord, Nat.mod_eq_of_lt below]

theorem ofHex?_eq_ok_iff (text : String) (value : α) :
    forms.ofHex? text = .ok value ↔
      ∃ digits, Quantity.Unmarks text.toList digits ∧ digits.length = 2 * forms.width ∧
        Hex.SpellsBytes digits (forms.toBytes value) := by
  rw [rest.ofHex?_iff]
  constructor
  · rintro ⟨bytes, decoded, read⟩
    obtain ⟨digits, unmarked, spells⟩ := (Hex.decodeText_eq_ok_iff text bytes).mp decoded
    rw [← (rest.ofBytes?_iff bytes value).mp read] at spells
    exact ⟨digits, unmarked, rest.length_toBytes value ▸ spells.length_eq, spells⟩
  · rintro ⟨digits, unmarked, -, spells⟩
    exact ⟨_, (Hex.decodeText_eq_ok_iff text _).mpr ⟨digits, unmarked, spells⟩,
      (rest.ofBytes?_iff _ value).mpr rfl⟩

theorem ofHex?_hexText (value : α) : forms.ofHex? (forms.hexText value) = .ok value := by
  rw [rest.ofHex?_iff, rest.hexText_eq]
  exact ⟨_, Hex.decodeText_encodeMarked _, (rest.ofBytes?_iff _ value).mpr rfl⟩

theorem decode_eq_ok_iff (input : Bytes) (value : α) :
    forms.decode input = .ok value ↔ Rlp.Leads (forms.toBytes value) input := by
  rw [rest.decode_iff, ← Rlp.decodeData_eq_ok_iff]
  constructor
  · rintro ⟨bytes, decoded, read⟩
    rw [(rest.ofBytes?_iff bytes value).mp read]
    exact decoded
  · intro decoded
    exact ⟨_, decoded, (rest.ofBytes?_iff _ value).mpr rfl⟩

theorem decode_encode (value : α) (more : Bytes) :
    forms.decode (forms.encode value ++ more) = .ok value := by
  have few : (forms.toBytes value).length ≤ 55 := rest.length_toBytes value ▸ rest.few
  rw [rest.decode_eq_ok_iff, rest.encode_eq]
  exact Rlp.leads_encodeData few more

theorem lt_iff_toWord_lt (left right : α) :
    left < right ↔ forms.toWord left < forms.toWord right := by
  have lengths : (forms.toBytes left).length = (forms.toBytes right).length := by
    rw [rest.length_toBytes, rest.length_toBytes]
  rw [rest.lt_iff, Bytes.lt_iff_ofBigEndian_lt lengths, BitVec.lt_def, rest.toNat_toWord,
    rest.toNat_toWord]

theorem agree : forms.Agree where
  length_toBytes := rest.length_toBytes
  ofBytes?_iff := rest.ofBytes?_iff
  ofHex?_iff := rest.ofHex?_eq_ok_iff
  ofHex?_hexText := rest.ofHex?_hexText
  ofWord_toWord := rest.ofWord_toWord
  toWord_ofWord := rest.toWord_ofWord
  decode_encode := rest.decode_encode
  decode_iff := rest.decode_eq_ok_iff
  lt_iff := rest.lt_iff_toWord_lt

end RestOnBytes

end Forms

namespace Address

def forms : Forms Address AddressError where
  width := 20
  toBytes := toBytes
  ofBytes? := ofBytes?
  hexText := hexText
  ofHex? := ofHex?
  toWord := toWord
  ofWord := ofWord
  encode := Rlp.encodeAddress
  decode := Rlp.decodeAddress

theorem ofBytes?_eq_ok_iff (bytes : Bytes) (address : Address) :
    ofBytes? bytes = .ok address ↔ address.toBytes = bytes := by
  rw [ofBytes?]
  constructor
  · intro read
    split at read
    · rename_i length
      have below := bytes.ofBigEndian_lt_two_pow
      rw [length] at below
      rw [← Except.ok.inj read, toBytes, ofNat, BitVec.toNat_ofNat, Nat.mod_eq_of_lt below, ← length,
        Bytes.toBigEndian_ofBigEndian]
    · cases read
  · rintro rfl
    have below : address.bits.toNat < 256 ^ 20 := address.bits.isLt
    rw [if_pos address.length_toBytes, ofNat, toBytes, Bytes.ofBigEndian_toBigEndian,
      Nat.mod_eq_of_lt below, BitVec.ofNat_toNat, BitVec.setWidth_eq]

theorem toNat_toWord (address : Address) : address.toWord.toNat = address.bits.toNat := by
  have below := address.bits.isLt
  rw [toWord, BitVec.toNat_setWidth, Nat.mod_eq_of_lt (by omega)]

theorem forms_restOnBytes : forms.RestOnBytes where
  few := by decide
  length_toBytes := length_toBytes
  ofBytes?_iff := ofBytes?_eq_ok_iff
  hexText_eq _ := rfl
  ofHex?_iff text address := by
    simp only [forms, ofHex?]
    cases Hex.decodeText text <;> simp
  toNat_toWord address := by
    have below : address.bits.toNat < 256 ^ 20 := address.bits.isLt
    exact (toNat_toWord address).trans
      ((Bytes.ofBigEndian_toBigEndian 20 _).trans (Nat.mod_eq_of_lt below)).symm
  toWord_ofWord word := (toNat_toWord _).trans (BitVec.toNat_setWidth 160 word)
  encode_eq _ := rfl
  decode_iff input address := by
    simp only [forms, Rlp.decodeAddress]
    cases Rlp.decodeData input with
    | error cause => simp [bind, Except.bind]
    | ok bytes =>
      simp only [bind, Except.bind, Except.ok.injEq, exists_eq_left']
      cases ofBytes? bytes <;> simp [pure, Except.pure, throw, throwThe, MonadExceptOf.throw]
  lt_iff _ _ := Iff.rfl

end Address

namespace Hash256

def forms : Forms Hash256 HashError where
  width := 32
  toBytes := toBytes
  ofBytes? := ofBytes?
  hexText := hexText
  ofHex? := ofHex?
  toWord := toWord
  ofWord := ofWord
  encode := Rlp.encodeHash
  decode := Rlp.decodeHash

theorem ofBytes?_eq_ok_iff (bytes : Bytes) (hash : Hash256) :
    ofBytes? bytes = .ok hash ↔ hash.toBytes = bytes := by
  rw [ofBytes?]
  constructor
  · intro read
    split at read
    · rename_i length
      have below := bytes.ofBigEndian_lt_two_pow
      rw [length] at below
      have number : (ofBytes bytes).bits.toNat = bytes.ofBigEndian := Nat.mod_eq_of_lt below
      rw [← Except.ok.inj read, toBytes, number, ← length, Bytes.toBigEndian_ofBigEndian]
    · cases read
  · rintro rfl
    rw [if_pos hash.length_toBytes, ofBytes_toBytes]

theorem forms_restOnBytes : forms.RestOnBytes where
  few := by decide
  length_toBytes := length_toBytes
  ofBytes?_iff := ofBytes?_eq_ok_iff
  hexText_eq _ := rfl
  ofHex?_iff text hash := by
    simp only [forms, ofHex?]
    cases Hex.decodeText text <;> simp
  toNat_toWord hash := by
    have below : hash.bits.toNat < 256 ^ 32 := hash.bits.isLt
    exact ((Bytes.ofBigEndian_toBigEndian 32 _).trans (Nat.mod_eq_of_lt below)).symm
  toWord_ofWord word := (Nat.mod_eq_of_lt word.isLt).symm
  encode_eq _ := rfl
  decode_iff input hash := by
    simp only [forms, Rlp.decodeHash]
    cases Rlp.decodeData input with
    | error cause => simp [bind, Except.bind]
    | ok bytes =>
      simp only [bind, Except.bind, Except.ok.injEq, exists_eq_left']
      cases ofBytes? bytes <;> simp [pure, Except.pure, throw, throwThe, MonadExceptOf.throw]
  lt_iff _ _ := Iff.rfl

end Hash256

/-- The forms of addresses and of hashes agree; a hash is moreover as wide as a word, so that
every word is the word of its hash. -/
theorem forms_agree : Address.forms.Agree ∧ Hash256.forms.Agree ∧
    ∀ word, (Hash256.ofWord word).toWord = word :=
  ⟨Address.forms_restOnBytes.agree, Hash256.forms_restOnBytes.agree, fun _ => rfl⟩

end StateTransition
