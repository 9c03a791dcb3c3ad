import StateTransition.Text.Hex

namespace StateTransition.Evm

inductive Halt where
  | outOfGas
  | stackUnderflow
  | stackOverflow
  | invalidJump (destination : Nat)
  | invalidOpcode (byte : UInt8)
  | staticCallViolation
  | returnDataOutOfBounds
  | createCollision
  | maxCodeSizeExceeded
  | invalidCodePrefix
  | maxInitCodeSizeExceeded
  /-- An access to memory past its end. No program reaches it. -/
  | memoryFault
  deriving DecidableEq, Repr

namespace Halt

def message : Halt → String
  | outOfGas => "out of gas"
  | stackUnderflow => "stack underflow"
  | stackOverflow => "stack overflow (max 1024)"
  | invalidJump destination => "invalid jump destination: " ++ toString destination
  | invalidOpcode byte => "invalid opcode: 0x" ++ Hex.encode [byte]
  | staticCallViolation => "state modification in static context"
  | returnDataOutOfBounds => "return data out of bounds"
  | createCollision => "contract address collision"
  | maxCodeSizeExceeded => "max code size exceeded"
  | invalidCodePrefix => "deployed code starts with 0xef"
  | maxInitCodeSizeExceeded => "init code size exceeded"
  | memoryFault => "memory fault"

end Halt

end StateTransition.Evm
