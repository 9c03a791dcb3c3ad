import StateTransition.Proofs.Rlp.Encoding
import StateTransition.Rlp.Decoding

/-!
What is read off the front of an encoding. `Leads` says which byte string is the first item of an
input, whatever follows it; it is what decoding answers, and what was encoded leads its encoding.
-/

namespace StateTransition.Rlp

/-- A byte string is the first item of an input: it stands alone, or behind a header that gives its
length. Headers may be longer than they need to be. -/
inductive Leads : Bytes → Bytes → Prop where
  | alone {byte : UInt8} (small : byte < 128) (rest : Bytes) : Leads [byte] (byte :: rest)
  | short {content : Bytes} (few : content.length ≤ 55) (headed : ¬ StandsAlone content)
      (rest : Bytes) : Leads content (UInt8.ofNat (128 + content.length) :: (content ++ rest))
  | long {content digits : Bytes} (any : digits ≠ []) (few : digits.length ≤ 8)
      (significant : digits.head? ≠ some 0) (spelled : digits.ofBigEndian = content.length)
      (fits : 1 + digits.length + content.length < UInt64.size) (rest : Bytes) :
      Leads content (UInt8.ofNat (183 + digits.length) :: (digits ++ (content ++ rest)))

theorem standsAlone_iff (bytes : Bytes) :
    StandsAlone bytes ↔ bytes.length = 1 ∧ bytes.all (· < 128) = true := by
  constructor
  · rintro ⟨byte, rfl, small⟩
    exact ⟨rfl, by simpa using small⟩
  · rintro ⟨one, small⟩
    obtain ⟨byte, rfl⟩ := List.length_eq_one_iff.mp one
    exact ⟨byte, rfl, by simpa using small⟩

theorem decodeData_of_leads {content input : Bytes} (leads : Leads content input) :
    decodeData input = .ok content := by
  cases leads with
  | alone small rest => exact if_pos (UInt8.lt_iff_toNat_lt.mp small)
  | short few headed rest =>
    have kind : (UInt8.ofNat (128 + content.length)).toNat = 128 + content.length := by
      rw [UInt8.toNat_ofNat', Nat.mod_eq_of_lt (by omega)]
    rw [standsAlone_iff] at headed
    simp only [decodeData, kind, Nat.add_sub_cancel_left, List.length_append, List.take_left']
    rw [if_neg (by omega), if_pos (by omega), if_neg (by omega), if_neg headed]
  | @long _ digits any few significant spelled fits rest =>
    have positive := List.length_pos_iff.mpr any
    have kind : (UInt8.ofNat (183 + digits.length)).toNat = 183 + digits.length := by
      rw [UInt8.toNat_ofNat', Nat.mod_eq_of_lt (by omega)]
    have length : decodeLength digits = .ok content.length := by
      rw [decodeLength, if_neg (Nat.not_lt.mpr few), if_neg significant, spelled]
    simp only [decodeData, kind, Nat.add_sub_cancel_left, List.length_append, List.take_left',
      List.drop_left', length, bind, Except.bind]
    rw [if_neg (by omega), if_neg (by omega), if_pos (by omega), if_neg (by omega),
      if_neg (by omega), if_neg (by omega)]

theorem length_of_decodeLength {digits : Bytes} {length : Nat}
    (decodes : decodeLength digits = .ok length) :
    digits.length ≤ 8 ∧ digits.head? ≠ some 0 ∧ digits.ofBigEndian = length := by
  rw [decodeLength] at decodes
  split at decodes
  · cases decodes
  · split at decodes
    · cases decodes
    · rename_i few significant
      exact ⟨Nat.not_lt.mp few, significant, Except.ok.inj decodes⟩

section Read

variable {first : UInt8} {rest : Bytes} {size width : Nat}

theorem leads_take (few : size ≤ 55) (kind : first.toNat = 128 + size) (present : size ≤ rest.length)
    (headed : ¬ StandsAlone (rest.take size)) : Leads (rest.take size) (first :: rest) := by
  have length : (rest.take size).length = size := List.length_take_of_le present
  have leads := Leads.short (length.symm ▸ few) headed (rest.drop size)
  rw [length, ← kind, UInt8.ofNat_toNat, List.take_append_drop] at leads
  exact leads

theorem leads_take_drop (any : 0 < width) (kind : first.toNat = 183 + width)
    (present : width + size ≤ rest.length) (length : decodeLength (rest.take width) = .ok size)
    (fits : 1 + width + size < UInt64.size) :
    Leads ((rest.drop width).take size) (first :: rest) := by
  obtain ⟨few, significant, spelled⟩ := length_of_decodeLength length
  have digits : (rest.take width).length = width := List.length_take_of_le (by omega)
  have content : ((rest.drop width).take size).length = size := by
    rw [List.length_take, List.length_drop]
    omega
  have some : rest.take width ≠ [] := List.length_pos_iff.mp (digits.symm ▸ any)
  have leads := Leads.long some few significant (spelled.trans content.symm)
    (by rw [digits, content]; exact fits) ((rest.drop width).drop size)
  rw [digits, ← kind, UInt8.ofNat_toNat, List.take_append_drop, List.take_append_drop] at leads
  exact leads

end Read

theorem leads_of_decodeData {content input : Bytes} (decodes : decodeData input = .ok content) :
    Leads content input := by
  cases input with
  | nil => cases decodes
  | cons first rest =>
    simp only [decodeData] at decodes
    split at decodes
    · rename_i small
      cases decodes
      exact .alone (UInt8.lt_iff_toNat_lt.mpr small) rest
    · split at decodes
      · rename_i large few
        split at decodes
        · cases decodes
        · rename_i present
          split at decodes
          · cases decodes
          · rename_i headed
            have length : (rest.take (first.toNat - 128)).length = first.toNat - 128 :=
              List.length_take_of_le (Nat.not_lt.mp present)
            rw [← Except.ok.inj decodes]
            apply leads_take (by omega) (by omega) (Nat.not_lt.mp present)
            rw [standsAlone_iff, length]
            exact headed
      · split at decodes
        · rename_i short long
          split at decodes
          · cases decodes
          · cases length : decodeLength (rest.take (first.toNat - 183)) with
            | error cause =>
              rw [length] at decodes
              cases decodes
            | ok size =>
              rw [length] at decodes
              simp only [bind, Except.bind] at decodes
              split at decodes
              · cases decodes
              · rename_i fits
                split at decodes
                · cases decodes
                · rename_i present
                  rw [← Except.ok.inj decodes]
                  exact leads_take_drop (by omega) (by omega) (Nat.not_lt.mp present) length
                    (Nat.not_le.mp fits)
        · cases decodes

theorem decodeData_eq_ok_iff (input content : Bytes) :
    decodeData input = .ok content ↔ Leads content input :=
  ⟨leads_of_decodeData, decodeData_of_leads⟩

theorem leads_encodeData {content : Bytes} (few : content.length ≤ 55) (rest : Bytes) :
    Leads content (encodeData content ++ rest) := by
  by_cases alone : StandsAlone content
  · rw [encodeData_of_standsAlone alone]
    obtain ⟨byte, rfl, small⟩ := alone
    exact .alone small rest
  · rw [encodeData_of_not_standsAlone alone, header, if_pos few, List.append_assoc]
    exact .short few alone rest

end StateTransition.Rlp
