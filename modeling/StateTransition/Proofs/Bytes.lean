import Mathlib.Tactic.Ring
import StateTransition.Bytes

namespace StateTransition.Bytes

theorem foldl_digits (start : Nat) (bytes : Bytes) :
    bytes.foldl (fun value byte => value * 256 + byte.toNat) start =
      start * 256 ^ bytes.length + bytes.ofBigEndian := by
  induction bytes generalizing start with
  | nil => simp [ofBigEndian]
  | cons byte rest ih =>
    rw [ofBigEndian, List.foldl_cons, List.foldl_cons, ih, ih, List.length_cons, Nat.pow_succ]
    ring

theorem ofBigEndian_cons (byte : UInt8) (rest : Bytes) :
    ofBigEndian (byte :: rest) = byte.toNat * 256 ^ rest.length + rest.ofBigEndian := by
  rw [ofBigEndian, List.foldl_cons, foldl_digits, Nat.zero_mul, Nat.zero_add]

theorem ofBigEndian_zeros_append (count : Nat) (bytes : Bytes) :
    (zeros count ++ bytes).ofBigEndian = bytes.ofBigEndian := by
  induction count with
  | zero => rfl
  | succ count ih =>
    have first : zeros (count + 1) ++ bytes = 0 :: (zeros count ++ bytes) := rfl
    rw [first, ofBigEndian_cons, ih, UInt8.toNat_zero, Nat.zero_mul, Nat.zero_add]

theorem ofBigEndian_toBigEndianOnto (width value : Nat) (low : Bytes) :
    (toBigEndianOnto width value low).ofBigEndian =
      value % 256 ^ width * 256 ^ low.length + low.ofBigEndian := by
  induction width generalizing value low with
  | zero => simp [toBigEndianOnto, Nat.mod_one]
  | succ width ih =>
    have digits : value % 256 ^ (width + 1) = value % 256 + 256 * (value / 256 % 256 ^ width) := by
      rw [Nat.pow_succ', Nat.mod_mul]
    have lowest : (UInt8.ofNat value).toNat = value % 256 := UInt8.toNat_ofNat'
    rw [toBigEndianOnto, ih, ofBigEndian_cons, List.length_cons, digits, lowest, Nat.pow_succ]
    ring

theorem ofBigEndian_toBigEndian (width value : Nat) :
    (toBigEndian width value).ofBigEndian = value % 256 ^ width := by
  rw [toBigEndian, ofBigEndian_toBigEndianOnto]
  simp [ofBigEndian]

theorem ofBigEndian_dropWhile_zero (bytes : Bytes) :
    ofBigEndian (bytes.dropWhile (· == 0)) = bytes.ofBigEndian := by
  induction bytes with
  | nil => rfl
  | cons byte rest ih =>
    by_cases zero : byte = 0
    · rw [List.dropWhile_cons_of_pos (by simpa using zero), ih, ofBigEndian_cons, zero]
      simp
    · rw [List.dropWhile_cons_of_neg (by simpa using zero)]

theorem lt_pow_minimal (value : Nat) : value < 256 ^ ((value.log2 + 8) / 8) := by
  have bits : value.log2 + 1 ≤ 8 * ((value.log2 + 8) / 8) := by omega
  calc
    value < 2 ^ (value.log2 + 1) := Nat.lt_log2_self
    _ ≤ 2 ^ (8 * ((value.log2 + 8) / 8)) := Nat.pow_le_pow_right (by decide) bits
    _ = 256 ^ ((value.log2 + 8) / 8) := by rw [Nat.pow_mul]

theorem ofBigEndian_minimal (value : Nat) : (minimal value).ofBigEndian = value := by
  rw [minimal, ofBigEndian_dropWhile_zero, ofBigEndian_toBigEndian,
    Nat.mod_eq_of_lt (lt_pow_minimal value)]

theorem minimal_injective {left right : Nat} (same : minimal left = minimal right) :
    left = right := by
  rw [← ofBigEndian_minimal left, same, ofBigEndian_minimal]

theorem minimal_ne_nil {value : Nat} (positive : 0 < value) : minimal value ≠ [] := by
  intro blank
  have spelled := ofBigEndian_minimal value
  rw [blank] at spelled
  exact Nat.ne_of_lt positive spelled

theorem length_minimal_le {value : Nat} (fits : value < UInt64.size) :
    (minimal value).length ≤ 8 := by
  have bits : value.log2 < 64 := by
    by_cases zero : value = 0
    · simp [zero]
    · exact (Nat.log2_lt zero).mpr fits
  calc
    (minimal value).length ≤ (toBigEndian ((value.log2 + 8) / 8) value).length :=
      (List.dropWhile_suffix _).length_le
    _ = (value.log2 + 8) / 8 := length_toBigEndian _ _
    _ ≤ 8 := by omega

theorem toBigEndian_injective {width left right : Nat} (leftFits : left < 256 ^ width)
    (rightFits : right < 256 ^ width) (same : toBigEndian width left = toBigEndian width right) :
    left = right := by
  rw [← Nat.mod_eq_of_lt leftFits, ← ofBigEndian_toBigEndian, same, ofBigEndian_toBigEndian,
    Nat.mod_eq_of_lt rightFits]

theorem ofBigEndian_lt (bytes : Bytes) : bytes.ofBigEndian < 256 ^ bytes.length := by
  induction bytes with
  | nil => simp [ofBigEndian]
  | cons byte rest ih =>
    have digit : byte.toNat + 1 ≤ 256 := byte.toNat_lt
    calc
      ofBigEndian (byte :: rest) = byte.toNat * 256 ^ rest.length + ofBigEndian rest :=
        ofBigEndian_cons byte rest
      _ < byte.toNat * 256 ^ rest.length + 256 ^ rest.length := Nat.add_lt_add_left ih _
      _ = (byte.toNat + 1) * 256 ^ rest.length := by ring
      _ ≤ 256 * 256 ^ rest.length := Nat.mul_le_mul_right _ digit
      _ = 256 ^ (byte :: rest).length := by rw [List.length_cons, Nat.pow_succ']

theorem ofBigEndian_lt_two_pow (bytes : Bytes) : bytes.ofBigEndian < 2 ^ (8 * bytes.length) := by
  rw [Nat.pow_mul]
  exact bytes.ofBigEndian_lt

theorem lt_iff_ofBigEndian_lt {left right : Bytes} (lengths : left.length = right.length) :
    left < right ↔ left.ofBigEndian < right.ofBigEndian := by
  induction left generalizing right with
  | nil =>
    obtain rfl : right = [] := List.length_eq_zero_iff.mp lengths.symm
    simp
  | cons byte rest ih =>
    cases right with
    | nil => cases lengths
    | cons other others =>
      have tails : rest.length = others.length := Nat.succ.inj lengths
      have below := ofBigEndian_lt rest
      have otherBelow := ofBigEndian_lt others
      rw [tails] at below
      rw [List.cons_lt_cons_iff, ih tails, ofBigEndian_cons, ofBigEndian_cons, tails]
      -- the first byte that differs decides, since what follows stays below its place value
      rcases Nat.lt_trichotomy byte.toNat other.toNat with less | same | more
      · have step : (byte.toNat + 1) * 256 ^ others.length ≤ other.toNat * 256 ^ others.length :=
          Nat.mul_le_mul_right _ less
        have room : (byte.toNat + 1) * 256 ^ others.length =
            byte.toNat * 256 ^ others.length + 256 ^ others.length := by ring
        exact ⟨fun _ => by omega, fun _ => Or.inl (UInt8.lt_iff_toNat_lt.mpr less)⟩
      · obtain rfl := UInt8.toNat_inj.mp same
        simp [UInt8.lt_irrefl]
      · have step : (other.toNat + 1) * 256 ^ others.length ≤ byte.toNat * 256 ^ others.length :=
          Nat.mul_le_mul_right _ more
        have room : (other.toNat + 1) * 256 ^ others.length =
            other.toNat * 256 ^ others.length + 256 ^ others.length := by ring
        constructor
        · rintro (first | ⟨same, _⟩)
          · exact absurd (UInt8.lt_iff_toNat_lt.mp first) (by omega)
          · exact absurd (congrArg UInt8.toNat same) (by omega)
        · intro less
          omega

theorem toBigEndian_lt_iff {width left right : Nat} (leftFits : left < 256 ^ width)
    (rightFits : right < 256 ^ width) :
    toBigEndian width left < toBigEndian width right ↔ left < right := by
  rw [lt_iff_ofBigEndian_lt (by simp), ofBigEndian_toBigEndian, ofBigEndian_toBigEndian,
    Nat.mod_eq_of_lt leftFits, Nat.mod_eq_of_lt rightFits]

/-- A byte string is told by its length and the number it spells. -/
theorem toBigEndian_ofBigEndian (bytes : Bytes) :
    toBigEndian bytes.length bytes.ofBigEndian = bytes := by
  have lengths : (toBigEndian bytes.length bytes.ofBigEndian).length = bytes.length :=
    length_toBigEndian _ _
  have spelled : (toBigEndian bytes.length bytes.ofBigEndian).ofBigEndian = bytes.ofBigEndian := by
    rw [ofBigEndian_toBigEndian, Nat.mod_eq_of_lt bytes.ofBigEndian_lt]
  apply List.le_antisymm
  · rw [← List.not_lt, lt_iff_ofBigEndian_lt lengths.symm, spelled]
    exact Nat.lt_irrefl _
  · rw [← List.not_lt, lt_iff_ofBigEndian_lt lengths, spelled]
    exact Nat.lt_irrefl _

theorem getElem?_toBigEndianOnto (width value : Nat) (low : Bytes) (place : Nat) :
    (toBigEndianOnto width value low)[place]? =
      if place < width then some (UInt8.ofNat (value / 256 ^ (width - 1 - place)))
      else low[place - width]? := by
  induction width generalizing value low with
  | zero => simp [toBigEndianOnto]
  | succ width ih =>
    rw [toBigEndianOnto, ih]
    rcases Nat.lt_trichotomy place width with before | here | behind
    · have places : width - place = width - 1 - place + 1 := by omega
      rw [if_pos before, if_pos (by omega), Nat.add_sub_cancel, places, Nat.pow_succ',
        Nat.div_div_eq_div_mul]
    · rw [if_neg (by omega), if_pos (by omega), here]
      simp
    · have places : place - width = place - (width + 1) + 1 := by omega
      rw [if_neg (by omega), if_neg (by omega), places, List.getElem?_cons_succ]

theorem getElem?_toBigEndian (width value place : Nat) :
    (toBigEndian width value)[place]? =
      if place < width then some (UInt8.ofNat (value / 256 ^ (width - 1 - place))) else none := by
  rw [toBigEndian, getElem?_toBigEndianOnto]
  rfl

theorem drop_toBigEndianOnto (width value : Nat) (low : Bytes) :
    (toBigEndianOnto width value low).drop width = low := by
  apply List.ext_getElem?
  intro place
  rw [List.getElem?_drop, getElem?_toBigEndianOnto, if_neg (by omega), Nat.add_sub_cancel_left]

theorem toBigEndianOnto_add (high width value : Nat) (low : Bytes) :
    toBigEndianOnto (high + width) value low =
      toBigEndianOnto high (value / 256 ^ width) (toBigEndianOnto width value low) := by
  induction width generalizing value low with
  | zero => simp [toBigEndianOnto]
  | succ width ih =>
    rw [← Nat.add_assoc, toBigEndianOnto, ih, toBigEndianOnto, Nat.div_div_eq_div_mul,
      ← Nat.pow_succ']

theorem drop_toBigEndian (high width value : Nat) :
    (toBigEndian (high + width) value).drop high = toBigEndian width (value % 256 ^ width) := by
  have low := (toBigEndian width value).toBigEndian_ofBigEndian
  rw [length_toBigEndian, ofBigEndian_toBigEndian] at low
  rw [low, toBigEndian, toBigEndianOnto_add, drop_toBigEndianOnto]
  rfl

theorem toBigEndianOnto_zero (width : Nat) (low : Bytes) :
    toBigEndianOnto width 0 low = zeros width ++ low := by
  induction width generalizing low with
  | zero => rfl
  | succ width ih =>
    rw [toBigEndianOnto, Nat.zero_div, ih, zeros, zeros, List.replicate_succ', List.append_assoc]
    rfl

theorem toBigEndian_add (high : Nat) {width value : Nat} (fits : value < 256 ^ width) :
    toBigEndian (high + width) value = (toBigEndian width value).padLeft (high + width) := by
  rw [toBigEndian, toBigEndianOnto_add, Nat.div_eq_of_lt fits, toBigEndianOnto_zero, padLeft,
    length_toBigEndian, Nat.add_sub_cancel]
  rfl

theorem getElem?_slice (source : Bytes) (start stop place : Nat) :
    (source.slice start stop)[place]? =
      if place < stop - start then source[start + place]? else none := by
  rw [slice, List.getElem?_take, List.getElem?_drop]

theorem length_slice {source : Bytes} {start stop : Nat} (inside : stop ≤ source.length) :
    (source.slice start stop).length = stop - start := by
  rw [slice, List.length_take, List.length_drop]
  omega

theorem getElem?_window (bytes : Bytes) (offset size place : Nat) :
    (bytes.window offset size)[place]? =
      if place < size then some (bytes[offset + place]?.getD 0) else none := by
  simp only [window, zeros, List.getElem?_append, List.length_take, List.length_drop,
    List.getElem?_take, List.getElem?_drop, List.getElem?_replicate]
  grind

theorem window_append_left {first : Bytes} {size : Nat} (full : first.length = size)
    (rest : Bytes) : (first ++ rest).window 0 size = first := by
  simp [window, zeros, ← full]

theorem window_append_right {first : Bytes} {skipped : Nat} (full : first.length = skipped)
    (rest : Bytes) (offset size : Nat) :
    (first ++ rest).window (skipped + offset) size = rest.window offset size := by
  rw [window, ← List.drop_drop, ← full, List.drop_left]
  rfl

theorem window_window (bytes : Bytes) {offset size width : Nat} (inside : offset + size ≤ width) :
    (bytes.window 0 width).window offset size = bytes.window offset size := by
  apply List.ext_getElem?
  intro place
  rw [getElem?_window, getElem?_window bytes offset size]
  split
  · rw [getElem?_window, if_pos (by omega), Nat.zero_add]
    rfl
  · rfl

end StateTransition.Bytes
