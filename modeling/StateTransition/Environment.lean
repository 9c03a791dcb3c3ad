import StateTransition.Address
import StateTransition.Digest.Keccak

namespace StateTransition

structure Environment where
  coinbase : Address := ⟨0x2adc25665018aa1fe0e6bc666dac8fc2697ff9ba#160⟩
  difficulty : Word := 0x20000#256
  prevrandao : Hash256 := Hash256.zero
  gasLimit : UInt64 := 100000000000000000
  number : UInt64 := 1
  timestamp : UInt64 := 1000
  baseFee : Word := 7#256
  blobBaseFee : Word := 1#256
  chainId : UInt64 := 1
  deriving DecidableEq, Repr, Inhabited

/-- There is no chain behind a block, so earlier blocks are given the hash of their number. -/
def blockHash (number : UInt64) : Hash256 := keccak256 (Bytes.ofText (toString number.toNat))

end StateTransition
