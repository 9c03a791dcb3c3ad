import Mathlib.Order.Bounds.Basic
import StateTransition.Proofs.Bytes
import StateTransition.Word.Arithmetic

/-!
The functions of words as functions of whole numbers. A word stands for its number without sign,
`toNat`, or in two's complement, `toInt`; what is computed on 256 or 512 bits is the function of the
numbers, at every pair and triple of words.
-/

namespace StateTransition

theorem powMod_eq {modulus : Nat} (large : 1 < modulus) (base : Nat) {bits exponent : Nat}
    (fits : exponent < 2 ^ bits) :
    powMod modulus base bits exponent = base ^ exponent % modulus := by
  induction bits generalizing exponent with
  | zero =>
    have zero : exponent = 0 := by simpa using fits
    rw [powMod, zero, Nat.pow_zero, Nat.mod_eq_of_lt large]
  | succ bits ih =>
    have half : exponent / 2 < 2 ^ bits := by
      rw [Nat.pow_succ] at fits
      omega
    have square : base ^ (exponent / 2) % modulus * (base ^ (exponent / 2) % modulus) % modulus =
        base ^ (2 * (exponent / 2)) % modulus := by
      rw [← Nat.mul_mod, ← Nat.pow_add, Nat.two_mul]
    simp only [powMod, ih half, square]
    split
    · rename_i odd
      have split : exponent = 2 * (exponent / 2) + 1 := by omega
      conv_rhs => rw [split, Nat.pow_succ]
      rw [Nat.mod_mul_mod]
    · rename_i even
      have split : exponent = 2 * (exponent / 2) := by omega
      rw [← split]

namespace Word

theorem isZero_iff (word : Word) : word.isZero = true ↔ word.toNat = 0 := by
  rw [isZero, beq_iff_eq, ← BitVec.toNat_inj]
  rfl

theorem toNat_ofNat_of_lt {value : Nat} (fits : value < modulus) : (ofNat value).toNat = value := by
  rw [ofNat, BitVec.toNat_ofNat]
  exact Nat.mod_eq_of_lt fits

theorem lt_two_pow_bitLength (word : Word) : word.toNat < 2 ^ word.bitLength := by
  rw [bitLength]
  split
  · rename_i zero
    rw [(isZero_iff word).mp zero]
    decide
  · exact Nat.lt_log2_self

theorem toNat_div (a b : Word) :
    (div a b).toNat = if b.toNat = 0 then 0 else a.toNat / b.toNat := by
  simp only [div, isZero_iff]
  split
  · rfl
  · exact BitVec.toNat_udiv

theorem toNat_rem (a b : Word) :
    (rem a b).toNat = if b.toNat = 0 then 0 else a.toNat % b.toNat := by
  simp only [rem, isZero_iff]
  split
  · rfl
  · exact BitVec.toNat_umod

theorem toNat_addMod (a b modulus : Word) : (addMod a b modulus).toNat =
    if modulus.toNat = 0 then 0 else (a.toNat + b.toNat) % modulus.toNat := by
  simp only [addMod, isZero_iff]
  split
  · rfl
  · rename_i positive
    exact toNat_ofNat_of_lt (Nat.lt_trans (Nat.mod_lt _ (Nat.pos_of_ne_zero positive)) modulus.isLt)

theorem toNat_mulMod (a b modulus : Word) : (mulMod a b modulus).toNat =
    if modulus.toNat = 0 then 0 else a.toNat * b.toNat % modulus.toNat := by
  simp only [mulMod, isZero_iff]
  split
  · rfl
  · rename_i positive
    exact toNat_ofNat_of_lt (Nat.lt_trans (Nat.mod_lt _ (Nat.pos_of_ne_zero positive)) modulus.isLt)

theorem toNat_power (base exponent : Word) :
    (power base exponent).toNat = base.toNat ^ exponent.toNat % 2 ^ 256 := by
  rw [power, powMod_eq (by decide) _ (lt_two_pow_bitLength exponent)]
  exact toNat_ofNat_of_lt (Nat.mod_lt _ (by decide))

theorem isLeast_byteLength (word : Word) :
    IsLeast {count | word.toNat < 2 ^ (8 * count)} word.byteLength := by
  constructor
  · have bits : word.bitLength ≤ 8 * word.byteLength := by
      rw [byteLength]
      omega
    exact Nat.lt_of_lt_of_le (lt_two_pow_bitLength word) (Nat.pow_le_pow_right (by decide) bits)
  · intro count fits
    have bits : word.bitLength ≤ 8 * count := by
      rw [bitLength]
      split
      · exact Nat.zero_le _
      · rename_i positive
        exact (Nat.log2_lt (fun zero => positive ((isZero_iff word).mpr zero))).mpr fits
    rw [byteLength]
    omega

theorem toNat_shiftLeft (shift value : Word) :
    (shiftLeft shift value).toNat = value.toNat * 2 ^ shift.toNat % 2 ^ 256 := by
  rw [shiftLeft]
  split
  · rw [BitVec.toNat_shiftLeft, Nat.shiftLeft_eq]
  · rename_i wide
    have multiple : 2 ^ 256 ∣ value.toNat * 2 ^ shift.toNat :=
      Nat.dvd_mul_left_of_dvd (Nat.pow_dvd_pow 2 (Nat.le_of_not_lt wide)) _
    rw [Nat.mod_eq_zero_of_dvd multiple]
    rfl

theorem toNat_shiftRight (shift value : Word) :
    (shiftRight shift value).toNat = value.toNat / 2 ^ shift.toNat := by
  rw [shiftRight]
  split
  · rw [BitVec.toNat_ushiftRight, Nat.shiftRight_eq_div_pow]
  · rename_i wide
    have larger : value.toNat < 2 ^ shift.toNat :=
      Nat.lt_of_lt_of_le value.isLt (Nat.pow_le_pow_right (by decide) (Nat.le_of_not_lt wide))
    rw [Nat.div_eq_of_lt larger]
    rfl

theorem toNat_byteAt (index word : Word) :
    (byteAt index word).toNat = (word.toBytes.getD index.toNat 0).toNat := by
  rw [byteAt, toBytes, List.getD_eq_getElem?_getD, Bytes.getElem?_toBigEndian]
  split
  · have low : (0xff#256).toNat = 2 ^ 8 - 1 := rfl
    have power : 256 ^ (32 - 1 - index.toNat) = 2 ^ (8 * (31 - index.toNat)) := by
      rw [Nat.pow_mul]
    rw [Option.getD_some, BitVec.toNat_and, low, Nat.and_two_pow_sub_one_eq_mod,
      BitVec.toNat_ushiftRight, Nat.shiftRight_eq_div_pow, UInt8.toNat_ofNat', power]
  · rfl

/-- A number of 512 bits as a word, if it is one. -/
def narrow? (wide : BitVec 512) : Option Word :=
  if wide.toNat < modulus then some (ofNat wide.toNat) else none

theorem toNat_widen (word : Word) : (word.setWidth 512).toNat = word.toNat :=
  BitVec.toNat_setWidth_of_le (by decide)

theorem toNat_mul_doubled {width : Nat} (a b : BitVec width) :
    (a.setWidth (width + width) * b.setWidth (width + width)).toNat = a.toNat * b.toNat := by
  have fits : a.toNat * b.toNat < 2 ^ (width + width) := calc
    a.toNat * b.toNat < 2 ^ width * 2 ^ width := Nat.mul_lt_mul'' a.isLt b.isLt
    _ = 2 ^ (width + width) := (Nat.pow_add 2 width width).symm
  have wide : width ≤ width + width := Nat.le_add_left width width
  rw [BitVec.toNat_mul, BitVec.toNat_setWidth_of_le wide, BitVec.toNat_setWidth_of_le wide,
    Nat.mod_eq_of_lt fits]

theorem narrow?_mod (wide : BitVec 512) {word : Word} (positive : word.toNat ≠ 0) :
    narrow? (wide % word.setWidth 512) = some (ofNat (wide.toNat % word.toNat)) := by
  have below : wide.toNat % word.toNat < modulus :=
    Nat.lt_trans (Nat.mod_lt _ (Nat.pos_of_ne_zero positive)) word.isLt
  rw [narrow?, BitVec.toNat_umod, toNat_widen, if_pos below]

theorem narrow?_addMod (a b : Word) {n : Word} (positive : n.toNat ≠ 0) :
    narrow? ((a.setWidth 512 + b.setWidth 512) % n.setWidth 512) = some (addMod a b n) := by
  have exact : (a.setWidth 512 + b.setWidth 512).toNat = a.toNat + b.toNat := by
    have := a.isLt
    have := b.isLt
    rw [BitVec.toNat_add, toNat_widen, toNat_widen]
    omega
  rw [narrow?_mod _ positive, exact, addMod, if_neg]
  rwa [isZero_iff]

theorem narrow?_mulMod (a b : Word) {n : Word} (positive : n.toNat ≠ 0) :
    narrow? ((a.setWidth 512 * b.setWidth 512) % n.setWidth 512) = some (mulMod a b n) := by
  have exact : (a.setWidth 512 * b.setWidth 512).toNat = a.toNat * b.toNat := toNat_mul_doubled a b
  rw [narrow?_mod _ positive, exact, mulMod, if_neg]
  rwa [isZero_iff]

theorem signedDiv_eq (a b : Word) : signedDiv a b = if b.toNat = 0 then 0#256 else a.sdiv b := by
  by_cases zero : b.isZero = true
  · rw [signedDiv, if_pos zero, if_pos ((isZero_iff b).mp zero)]
  · rw [signedDiv, if_neg zero, if_neg (zero ∘ (isZero_iff b).mpr), BitVec.sdiv_eq, magnitude,
      magnitude, isNegative, isNegative]
    cases a.msb <;> cases b.msb <;> rfl

theorem signedRem_eq (a b : Word) : signedRem a b = if b.toNat = 0 then 0#256 else a.srem b := by
  by_cases zero : b.isZero = true
  · rw [signedRem, if_pos zero, if_pos ((isZero_iff b).mp zero)]
  · rw [signedRem, if_neg zero, if_neg (zero ∘ (isZero_iff b).mpr), BitVec.srem_eq, magnitude,
      magnitude, isNegative, isNegative]
    cases a.msb <;> cases b.msb <;> rfl

theorem arithmeticShiftRight_eq (shift value : Word) :
    arithmeticShiftRight shift value = value.sshiftRight shift.toNat := by
  rw [arithmeticShiftRight, isNegative, maximum]
  cases negative : value.msb with
  | true =>
    rw [BitVec.sshiftRight_eq_of_msb_true negative]
    split
    · rfl
    · rename_i wide
      rw [BitVec.ushiftRight_eq_zero (Nat.le_of_not_lt wide), BitVec.not_zero]
      rfl
  | false =>
    rw [BitVec.sshiftRight_eq_of_msb_false negative]
    split
    · rfl
    · rename_i wide
      rw [BitVec.ushiftRight_eq_zero (Nat.le_of_not_lt wide)]
      rfl

theorem toInt_arithmeticShiftRight (shift value : Word) :
    (arithmeticShiftRight shift value).toInt = value.toInt.fdiv (2 ^ shift.toNat) := by
  have positive : (0 : Int) ≤ 2 ^ shift.toNat := Int.pow_nonneg (by decide)
  rw [arithmeticShiftRight_eq, BitVec.toInt_sshiftRight, Int.shiftRight_eq_div_pow,
    Int.fdiv_eq_ediv_of_nonneg _ positive]
  simp

theorem signedLess_iff (a b : Word) : signedLess a b = true ↔ a.toInt < b.toInt := by
  have signA := BitVec.msb_eq_toInt (x := a)
  have signB := BitVec.msb_eq_toInt (x := b)
  rw [signedLess, isNegative, isNegative]
  split
  · rename_i same
    rw [decide_eq_true_iff, BitVec.lt_def]
    rw [BitVec.toInt_eq_msb_cond, BitVec.toInt_eq_msb_cond, same]
    split <;> omega
  · rename_i differ
    rw [signA, signB] at differ
    rw [signA, decide_eq_true_iff]
    simp at differ
    omega

theorem getLsbD_mask (width place : Nat) :
    (ofNat (1 <<< width - 1)).getLsbD place = (decide (place < 256) && decide (place < width)) := by
  rw [ofNat, BitVec.getLsbD_ofNat, Nat.one_shiftLeft, Nat.testBit_two_pow_sub_one]

theorem getLsbD_signExtend {index : Word} (short : index.toNat < 31) (word : Word) {place : Nat}
    (within : place < 256) :
    (signExtend index word).getLsbD place =
      if place < 8 * (index.toNat + 1) then word.getLsbD place
      else word.getLsbD (8 * (index.toNat + 1) - 1) := by
  simp only [signExtend, if_pos short]
  cases sign : word.getLsbD (8 * (index.toNat + 1) - 1) with
  | true =>
    rw [if_pos rfl, BitVec.getLsbD_or, BitVec.getLsbD_not, getLsbD_mask]
    by_cases low : place < 8 * (index.toNat + 1) <;> simp [within, low]
  | false =>
    rw [if_neg (by simp), BitVec.getLsbD_and, getLsbD_mask]
    by_cases low : place < 8 * (index.toNat + 1) <;> simp [within, low]

theorem signExtend_eq {index : Word} (short : index.toNat < 31) (word : Word) :
    signExtend index word = (word.setWidth (8 * (index.toNat + 1))).signExtend 256 := by
  apply BitVec.eq_of_getLsbD_eq
  intro place within
  rw [getLsbD_signExtend short word within, BitVec.getLsbD_signExtend, BitVec.msb_setWidth,
    BitVec.getLsbD_setWidth]
  by_cases low : place < 8 * (index.toNat + 1) <;> simp [within, low]

theorem toInt_signExtend {index : Word} (short : index.toNat < 31) (word : Word) :
    (signExtend index word).toInt = (word.toNat : Int).bmod (2 ^ (8 * (index.toNat + 1))) := by
  rw [signExtend_eq short, BitVec.toInt_signExtend_of_le (by omega), BitVec.toInt_setWidth]

theorem signedDiv_mul_add_signedRem (a : Word) {b : Word} (positive : b.toNat ≠ 0) :
    signedDiv a b * b + signedRem a b = a := by
  rw [signedDiv_eq, signedRem_eq, if_neg positive, if_neg positive]
  apply BitVec.eq_of_toInt_eq
  rw [BitVec.toInt_add, BitVec.toInt_mul, BitVec.toInt_sdiv, BitVec.toInt_srem, Int.bmod_mul_bmod,
    Int.bmod_add_bmod, Int.tdiv_mul_add_tmod]
  exact BitVec.toInt_bmod_cancel a

theorem toInt_signedRem (a b : Word) :
    (signedRem a b).toInt = if b.toNat = 0 then 0 else a.toInt.tmod b.toInt := by
  rw [signedRem_eq]
  split
  · rfl
  · exact BitVec.toInt_srem a b

theorem signedDiv_eq_ofInt (a b : Word) :
    signedDiv a b =
      if b.toNat = 0 then 0#256 else BitVec.ofInt 256 (a.toInt.tdiv b.toInt) := by
  rw [signedDiv_eq]
  split
  · rfl
  · apply BitVec.eq_of_toInt_eq
    rw [BitVec.toInt_sdiv, BitVec.toInt_ofInt]

end Word

end StateTransition
