import StateTransition.Proofs.Text.Digits

namespace StateTransition.Hex

open Quantity

/-- Digits, two for each byte, and the bytes they spell. -/
inductive SpellsBytes : List Char → Bytes → Prop where
  | nil : SpellsBytes [] []
  | cons {high low : Char} {upper lower : Nat} {rest : List Char} {bytes : Bytes}
      (first : IsHexDigit high upper) (second : IsHexDigit low lower)
      (others : SpellsBytes rest bytes) :
      SpellsBytes (high :: low :: rest) (UInt8.ofNat (16 * upper + lower) :: bytes)

theorem utf8EncodeChar_cases (c : Char) : ∃ lead more, String.utf8EncodeChar c = lead :: more ∧
    (c.toNat < 128 ∧ lead.toNat = c.toNat ∧ more = [] ∨ 128 ≤ c.toNat ∧ 128 ≤ lead.toNat) := by
  have value : c.val.toNat = c.toNat := rfl
  simp only [String.utf8EncodeChar, value]
  split
  · refine ⟨_, _, rfl, .inl ⟨by omega, ?_, rfl⟩⟩
    rw [UInt8.toNat_ofNat', Nat.mod_eq_of_lt (by omega)]
  · split
    · refine ⟨_, _, rfl, .inr ⟨by omega, ?_⟩⟩
      rw [UInt8.toNat_ofNat']
      omega
    · split
      · refine ⟨_, _, rfl, .inr ⟨by omega, ?_⟩⟩
        rw [UInt8.toNat_ofNat']
        omega
      · refine ⟨_, _, rfl, .inr ⟨by omega, ?_⟩⟩
        rw [UInt8.toNat_ofNat']
        omega

theorem digit?_of_le {byte : UInt8} (beyond : 128 ≤ byte.toNat) : digit? byte = none := by
  rw [digit?, if_neg (by omega), if_neg (by omega), if_neg (by omega)]

theorem utf8EncodeChar_of_isHexDigit {c : Char} {value : Nat} (digit : IsHexDigit c value) :
    ∃ code, String.utf8EncodeChar c = [code] ∧ digit? code = some value := by
  obtain ⟨lead, more, encoded, ⟨-, same, rfl⟩ | ⟨beyond, -⟩⟩ := utf8EncodeChar_cases c
  · exact ⟨lead, encoded, (digit?_eq_some_iff same).mpr digit⟩
  · exact absurd digit.ascii (Nat.not_lt.mpr beyond)

theorem isHexDigit_of_digit? {c : Char} {lead : UInt8} {more : Bytes} {value : Nat}
    (encoded : String.utf8EncodeChar c = lead :: more) (digit : digit? lead = some value) :
    IsHexDigit c value ∧ more = [] := by
  obtain ⟨first, tail, again, cases⟩ := utf8EncodeChar_cases c
  rw [encoded] at again
  cases again
  rcases cases with ⟨-, same, nothing⟩ | ⟨-, beyond⟩
  · exact ⟨(digit?_eq_some_iff same).mp digit, nothing⟩
  · rw [digit?_of_le beyond] at digit
    cases digit

theorem decodePairs_of_spellsBytes {text : List Char} {bytes : Bytes}
    (spells : SpellsBytes text bytes) (position : Nat) (done : Bytes) :
    decodePairs (text.flatMap String.utf8EncodeChar) position done =
      .ok (done.reverse ++ bytes) := by
  induction spells generalizing position done with
  | nil => simp [decodePairs]
  | @cons high low upper lower rest bytes first second _ ih =>
    obtain ⟨highCode, highEncoded, highDigit⟩ := utf8EncodeChar_of_isHexDigit first
    obtain ⟨lowCode, lowEncoded, lowDigit⟩ := utf8EncodeChar_of_isHexDigit second
    simp only [List.flatMap_cons, highEncoded, lowEncoded, List.singleton_append, decodePairs,
      highDigit, lowDigit]
    rw [ih, List.reverse_cons, List.append_assoc, List.singleton_append]

theorem decodePairs_eq_ok {high low : UInt8} {rest done result : Bytes} {position : Nat}
    (decodes : decodePairs (high :: low :: rest) position done = .ok result) :
    ∃ upper lower, digit? high = some upper ∧ digit? low = some lower ∧
      decodePairs rest (position + 2) (UInt8.ofNat (16 * upper + lower) :: done) = .ok result := by
  rw [decodePairs] at decodes
  split at decodes
  · exact ⟨_, _, ‹_›, ‹_›, decodes⟩
  · cases decodes
  · cases decodes

theorem spellsBytes_of_decodePairs : ∀ (text : List Char) (position : Nat) (done result : Bytes),
    (text.flatMap String.utf8EncodeChar).length % 2 = 0 →
      decodePairs (text.flatMap String.utf8EncodeChar) position done = .ok result →
        ∃ bytes, result = done.reverse ++ bytes ∧ SpellsBytes text bytes
  | [], _, done, _, _, decodes => by
    cases decodes
    exact ⟨[], by simp, .nil⟩
  | [c], position, done, result, even, decodes => by
    obtain ⟨lead, more, encoded, -⟩ := utf8EncodeChar_cases c
    simp only [List.flatMap_cons, List.flatMap_nil, List.append_nil, encoded] at even decodes
    cases more with
    | nil => cases even
    | cons low rest =>
      obtain ⟨upper, -, digit, -⟩ := decodePairs_eq_ok decodes
      cases (isHexDigit_of_digit? encoded digit).2
  | high :: low :: rest, position, done, result, even, decodes => by
    obtain ⟨highLead, highMore, highEncoded, -⟩ := utf8EncodeChar_cases high
    obtain ⟨lowLead, lowMore, lowEncoded, -⟩ := utf8EncodeChar_cases low
    simp only [List.flatMap_cons, highEncoded, lowEncoded, List.cons_append] at even decodes
    cases highMore with
    | cons second others =>
      obtain ⟨upper, -, digit, -⟩ := decodePairs_eq_ok decodes
      cases (isHexDigit_of_digit? highEncoded digit).2
    | nil =>
      obtain ⟨upper, lower, highDigit, lowDigit, later⟩ := decodePairs_eq_ok decodes
      obtain ⟨first, -⟩ := isHexDigit_of_digit? highEncoded highDigit
      obtain ⟨second, rfl⟩ := isHexDigit_of_digit? lowEncoded lowDigit
      have evenRest : (rest.flatMap String.utf8EncodeChar).length % 2 = 0 := by
        simp only [List.nil_append, List.length_cons] at even
        omega
      obtain ⟨bytes, rfl, spells⟩ := spellsBytes_of_decodePairs rest _ _ _ evenRest later
      exact ⟨_, by simp, .cons first second spells⟩

theorem SpellsBytes.length_eq {text : List Char} {bytes : Bytes} (spells : SpellsBytes text bytes) :
    text.length = 2 * bytes.length := by
  induction spells with
  | nil => rfl
  | cons _ _ _ ih =>
    simp only [List.length_cons]
    omega

theorem SpellsBytes.forall_isHexDigit {text : List Char} {bytes : Bytes}
    (spells : SpellsBytes text bytes) : ∀ c ∈ text, ∃ value, IsHexDigit c value := by
  induction spells with
  | nil => exact nofun
  | cons first second _ ih =>
    exact List.forall_mem_cons.mpr ⟨⟨_, first⟩, List.forall_mem_cons.mpr ⟨⟨_, second⟩, ih⟩⟩

theorem length_utf8_of_isHexDigit {text : List Char}
    (digits : ∀ c ∈ text, ∃ value, IsHexDigit c value) :
    (text.flatMap String.utf8EncodeChar).length = text.length := by
  induction text with
  | nil => rfl
  | cons c rest ih =>
    obtain ⟨⟨value, digit⟩, others⟩ := List.forall_mem_cons.mp digits
    obtain ⟨code, encoded, -⟩ := utf8EncodeChar_of_isHexDigit digit
    rw [List.flatMap_cons, encoded, List.length_append, ih others, List.length_cons, Nat.add_comm]
    rfl

theorem decode_eq_ok_iff (text : List Char) (bytes : Bytes) :
    decode (text.flatMap String.utf8EncodeChar) = .ok bytes ↔ SpellsBytes text bytes := by
  rw [decode]
  constructor
  · intro decodes
    split at decodes
    · cases decodes
    · have even : (text.flatMap String.utf8EncodeChar).length % 2 = 0 := by omega
      obtain ⟨_, rfl, spells⟩ := spellsBytes_of_decodePairs text 0 [] bytes even decodes
      exact spells
  · intro spells
    have length := length_utf8_of_isHexDigit spells.forall_isHexDigit
    have pairs := spells.length_eq
    rw [if_neg (by omega), decodePairs_of_spellsBytes spells]
    rfl

theorem decodeText_eq_ok_iff (text : String) (bytes : Bytes) :
    decodeText text = .ok bytes ↔
      ∃ digits, Unmarks text.toList digits ∧ SpellsBytes digits bytes := by
  have unmark := exists_unmarks_iff (SpellsBytes · bytes)
    (fun _ spells => spells.forall_isHexDigit) text.toList
  rw [decodeText, decode_eq_ok_iff, ← unmark]

theorem isHexDigit_digitChar {value : Nat} (below : value < 16) :
    IsHexDigit (digitChar value) value := by
  rw [isHexDigit_iff]
  revert value
  decide

theorem spellsBytes_flatMap_byteChars (bytes : Bytes) :
    SpellsBytes (bytes.flatMap byteChars) bytes := by
  induction bytes with
  | nil => exact .nil
  | cons byte rest ih =>
    have size := byte.toNat_lt
    have high := isHexDigit_digitChar (show byte.toNat / 16 < 16 by omega)
    have low := isHexDigit_digitChar (show byte.toNat % 16 < 16 by omega)
    have spells := SpellsBytes.cons high low ih
    rw [Nat.div_add_mod, UInt8.ofNat_toNat] at spells
    exact spells

theorem decodeText_encodeMarked (bytes : Bytes) : decodeText (encodeMarked bytes) = .ok bytes := by
  rw [decodeText_eq_ok_iff]
  refine ⟨bytes.flatMap byteChars, .inr ?_, spellsBytes_flatMap_byteChars bytes⟩
  simp only [encodeMarked, encode, String.toList_append, String.toList_ofList]
  rfl

end StateTransition.Hex
