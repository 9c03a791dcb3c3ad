import StateTransition.Address
import StateTransition.Digest.Keccak
import StateTransition.Rlp.Encoding

namespace StateTransition.Evm

def addressOfHash (hash : Hash256) : Address := Address.ofWord hash.toWord

def createOrigin (sender : Address) (nonce : UInt64) : Bytes :=
  (Rlp.Item.list [.data sender.toBytes, Rlp.number nonce.toNat]).encode

def createAddress (sender : Address) (nonce : UInt64) : Address :=
  addressOfHash (keccak256 (createOrigin sender nonce))

def saltedOrigin (sender : Address) (salt : Word) (initCode : Bytes) : Bytes :=
  0xff :: (sender.toBytes ++ salt.toBytes ++ (keccak256 initCode).toBytes)

def saltedAddress (sender : Address) (salt : Word) (initCode : Bytes) : Address :=
  addressOfHash (keccak256 (saltedOrigin sender salt initCode))

end StateTransition.Evm
