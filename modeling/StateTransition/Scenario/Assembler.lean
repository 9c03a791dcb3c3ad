import StateTransition.Address
import StateTransition.Evm.Opcode

namespace StateTransition.Scenario

inductive AssemblyItem where
  | push (value : Word)
  | pushAddress (address : Address)
  | operation (opcode : Evm.Opcode)
  deriving DecidableEq, Repr

namespace AssemblyItem

def pushWidth (value : Word) : Nat := max value.byteLength 1

def toBytes : AssemblyItem → Bytes
  | push value =>
    UInt8.ofNat (0x5f + pushWidth value) :: Bytes.toBigEndian (pushWidth value) value.toNat
  | pushAddress address => 0x73 :: address.toBytes
  | operation opcode => [opcode.toByte]

def store (key value : Word) : List AssemblyItem :=
  [push value, push key, operation .sstore]

end AssemblyItem

def assemble (items : List AssemblyItem) : Bytes := items.flatMap AssemblyItem.toBytes

end StateTransition.Scenario
