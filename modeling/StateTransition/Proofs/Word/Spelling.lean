import StateTransition.Address
import StateTransition.Hash256
import StateTransition.Proofs.Bytes

namespace StateTransition

theorem Word.ofBytes_toBytes (word : Word) : Word.ofBytes word.toBytes = word := by
  have below : word.toNat < 256 ^ 32 := word.isLt
  rw [ofBytes, toBytes, Bytes.ofBigEndian_toBigEndian, Nat.mod_eq_of_lt below]
  exact BitVec.ofNat_toNat 256 word

theorem Hash256.toBytes_eq (hash : Hash256) : hash.toBytes = hash.toWord.toBytes := rfl

theorem Hash256.ofBytes_toBytes (hash : Hash256) : Hash256.ofBytes hash.toBytes = hash := by
  rw [ofBytes, toBytes_eq, Word.ofBytes_toBytes]
  rfl

@[simp] theorem Hash256.length_toBytes (hash : Hash256) : hash.toBytes.length = 32 :=
  Bytes.length_toBigEndian 32 _

@[simp] theorem Address.length_toBytes (address : Address) : address.toBytes.length = 20 :=
  Bytes.length_toBigEndian 20 _

theorem Address.toBytes_toWord (address : Address) :
    address.toWord.toBytes = address.toBytes.padLeft 32 := by
  have below : address.bits.toNat < 256 ^ 20 := address.bits.isLt
  have number : address.toWord.toNat = address.bits.toNat := by
    rw [toWord, BitVec.toNat_setWidth, Nat.mod_eq_of_lt (by omega)]
  rw [Word.toBytes, number]
  exact Bytes.toBigEndian_add 12 below

end StateTransition
