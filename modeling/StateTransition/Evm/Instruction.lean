import StateTransition.Evm.Calls
import StateTransition.Evm.Opcode

namespace StateTransition.Evm

namespace Exec

def proceed (action : Exec Unit) : Exec Control := do action; return .next

def binary (operation : Word → Word → Word) : Exec Unit := do
  let operands ← popMany 2
  push (operation operands[0] operands[1])

def ternary (operation : Word → Word → Word → Word) : Exec Unit := do
  let (first, second, third) ← popThree
  push (operation first second third)

def unary (operation : Word → Word) : Exec Unit := do push (operation (← pop))

def compare (relation : Word → Word → Bool) : Exec Unit :=
  binary fun a b => Word.ofBool (relation a b)

def exponentiate (rules : Rules) : Exec Unit := do
  let operands ← popMany 2
  useGas (Gas.exponent rules operands[1])
  push (Word.power operands[0] operands[1])

def hash (rules : Rules) : Exec Unit := do
  let range ← popMany 2
  let (offset, size) ← memoryRange rules range[0] range[1]
  useGas (Gas.hashing rules size)
  push (keccak256 (← readBytes offset size)).toWord

def inputAt (input : Bytes) (offset : Nat) : Bytes :=
  if offset < input.length then
    let stop := min (offset + 32) input.length
    input.slice offset stop ++ Bytes.zeros (32 - (stop - offset))
  else Bytes.zeros 32

def copyToMemory (rules : Rules) (source : Bytes) : Exec Unit := do
  let (target, start, length) ← popThree
  let (offset, size) ← memoryRange rules target length
  useGas (Gas.copy rules size)
  writeBytes offset (Memory.filled source start.saturated size)

def readAccount (rules : Rules) (read : Journal → Address → Word) : Exec Unit := do
  let address ← popAddress
  accessAccount rules address
  push (read (← journal) address)

def copyExternalCode (rules : Rules) : Exec Unit := do
  let address ← popAddress
  let (target, start, length) ← popThree
  accessAccount rules address
  let (offset, size) ← memoryRange rules target length
  useGas (Gas.copy rules size)
  writeBytes offset (Memory.filled ((← journal).code address) start.saturated size)

/-- Return data is not padded: a window past its end halts the frame. -/
def copyReturnData (rules : Rules) : Exec Unit := do
  let (target, source, length) ← popThree
  let data := (← frame).returnData
  require (source.toNat + length.toNat ≤ data.length) .returnDataOutOfBounds
  let (offset, size) ← memoryRange rules target length
  useGas (Gas.copy rules size)
  writeBytes offset ((data.drop source.toNat).take size)

/-- Empty accounts count as missing ones. -/
def codeHashAt (journal : Journal) (address : Address) : Word :=
  if journal.isEmptyAt address then 0#256 else (journal.world.account address).codeHash.toWord

def recentBlockHash (setting : Setting) (requested : Word) : Word :=
  let current := setting.environment.number.toNat
  let number := requested.toNat
  if number < current ∧ current - number ≤ setting.rules.amount .blockhashWindow then
    (blockHash (UInt64.ofNat number)).toWord
  else 0#256

def loadStorage (rules : Rules) : Exec Unit := do
  let key ← pop
  let address := (← context).address
  if rules.defines .coldSload then
    let cold ← askJournal (·.warmSlot address key)
    useGas (Gas.access rules .coldSload cold)
  push ((← journal).slot address key)

def storeStorage (rules : Rules) : Exec Unit := do
  requireNonStatic
  let operands ← popMany 2
  let key := operands[0]
  let value := operands[1]
  let remaining ← gas
  require ((rules.value .sstoreSentry).all fun sentry => sentry.toNat < remaining) .outOfGas
  let address := (← context).address
  let cold ← if rules.defines .coldSload then askJournal (·.warmSlot address key) else pure false
  let journal ← journal
  let price := Gas.write rules
    ⟨journal.initialSlot address key, journal.slot address key, value⟩ cold
  useGas price.gas
  modifyJournal fun journal => (journal.addRefund price.refund).setSlot address key value

def jump (destination : Word) : Exec Unit := fun machine =>
  if machine.frame.code.isDestination destination.toNat then
    .ok () { machine with frame := { machine.frame with position := destination.toNat } }
  else .error (.invalidJump destination.saturated) machine

def copyMemory (rules : Rules) : Exec Unit := do
  let (target, source, length) ← popThree
  let (offset, size) ← memoryRange rules target length
  let (start, _) ← memoryRange rules source length
  useGas (Gas.copy rules size)
  writeBytes offset (← readBytes start size)

def pushOperand (size : Nat) : Exec Unit := do
  let current ← frame
  push (Word.ofBytes (current.code.operand current.position size))
  modifyFrame fun frame => { frame with position := frame.position + size }

def storeTransient : Exec Unit := do
  requireNonStatic
  let operands ← popMany 2
  let address := (← context).address
  modifyJournal (·.setTransientSlot address operands[0] operands[1])

def emitLog (rules : Rules) (topicCount : Nat) : Exec Unit := do
  requireNonStatic
  let range ← popMany 2
  let topics ← popEach topicCount
  let (offset, size) ← memoryRange rules range[0] range[1]
  useGas (Gas.logData rules size)
  let data ← readBytes offset size
  let address := (← context).address
  modifyJournal (·.emit ⟨address, topics.toList.map Hash256.ofWord, data⟩)

def memoryOutput (rules : Rules) : Exec Bytes := do
  let range ← popMany 2
  let (offset, size) ← memoryRange rules range[0] range[1]
  readBytes offset size

def execute (setting : Setting) : Opcode → Exec Control
  | .stop => return .stop
  | .add => proceed <| binary (· + ·)
  | .mul => proceed <| binary (· * ·)
  | .sub => proceed <| binary (· - ·)
  | .div => proceed <| binary Word.div
  | .sdiv => proceed <| binary Word.signedDiv
  | .mod => proceed <| binary Word.rem
  | .smod => proceed <| binary Word.signedRem
  | .addmod => proceed <| ternary Word.addMod
  | .mulmod => proceed <| ternary Word.mulMod
  | .exp => proceed <| exponentiate setting.rules
  | .signextend => proceed <| binary Word.signExtend
  | .lt => proceed <| compare (· < ·)
  | .gt => proceed <| compare (· > ·)
  | .slt => proceed <| compare Word.signedLess
  | .sgt => proceed <| compare fun a b => Word.signedLess b a
  | .eq => proceed <| compare (· == ·)
  | .iszero => proceed <| unary fun a => Word.ofBool a.isZero
  | .and => proceed <| binary (· &&& ·)
  | .or => proceed <| binary (· ||| ·)
  | .xor => proceed <| binary (· ^^^ ·)
  | .not => proceed <| unary (~~~ ·)
  | .byte => proceed <| binary Word.byteAt
  | .shl => proceed <| binary Word.shiftLeft
  | .shr => proceed <| binary Word.shiftRight
  | .sar => proceed <| binary Word.arithmeticShiftRight
  | .keccak256 => proceed <| hash setting.rules
  | .address => proceed do push (← context).address.toWord
  | .balance => proceed <| readAccount setting.rules Journal.balance
  | .origin => proceed <| push setting.origin.toWord
  | .caller => proceed do push (← context).caller.toWord
  | .callvalue => proceed do push (← context).value
  | .calldataload => proceed do
    let offset ← pop
    push (Word.ofBytes (inputAt (← context).input offset.saturated))
  | .calldatasize => proceed do pushNat (← context).input.length
  | .calldatacopy => proceed do copyToMemory setting.rules (← context).input
  | .codesize => proceed do pushNat (← frame).code.size
  | .codecopy => proceed do copyToMemory setting.rules (← frame).code.bytes.toList
  | .gasprice => proceed <| push setting.gasPrice
  | .extcodesize => proceed <| readAccount setting.rules fun journal address =>
    Word.ofNat (journal.code address).length
  | .extcodecopy => proceed <| copyExternalCode setting.rules
  | .returndatasize => proceed do pushNat (← frame).returnData.length
  | .returndatacopy => proceed <| copyReturnData setting.rules
  | .extcodehash => proceed <| readAccount setting.rules codeHashAt
  | .blockhash => proceed <| unary (recentBlockHash setting)
  | .coinbase => proceed <| push setting.environment.coinbase.toWord
  | .timestamp => proceed <| pushNat setting.environment.timestamp.toNat
  | .number => proceed <| pushNat setting.environment.number.toNat
  | .prevrandao => proceed <| push <|
    if setting.rules.isActive .prevrandao then setting.environment.prevrandao.toWord
    else setting.environment.difficulty
  | .gaslimit => proceed <| pushNat setting.environment.gasLimit.toNat
  | .chainid => proceed <| pushNat setting.environment.chainId.toNat
  | .selfbalance => proceed do push ((← journal).balance (← context).address)
  | .basefee => proceed <| push setting.environment.baseFee
  | .blobhash => proceed <| unary fun _ => 0#256
  | .blobbasefee => proceed <| push setting.environment.blobBaseFee
  | .pop => proceed do let _ ← pop
  | .mload => proceed do
    let (offset, _) ← memoryRange setting.rules (← pop) 32#256
    push (← loadWord offset)
  | .mstore => proceed do
    let operands ← popMany 2
    let (offset, _) ← memoryRange setting.rules operands[0] 32#256
    writeBytes offset operands[1].toBytes
  | .mstore8 => proceed do
    let operands ← popMany 2
    let (offset, _) ← memoryRange setting.rules operands[0] 1#256
    writeBytes offset [operands[1].lowByte]
  | .sload => proceed <| loadStorage setting.rules
  | .sstore => proceed <| storeStorage setting.rules
  | .jump => proceed do jump (← pop)
  | .jumpi => proceed do
    let operands ← popMany 2
    if !operands[1].isZero then jump operands[0]
  | .pc => proceed do pushNat ((← frame).position - 1)
  | .msize => proceed do pushNat (← frame).memory.size
  | .gas => proceed do pushNat (← gas)
  | .jumpdest => return .next
  | .tload => proceed do
    let key ← pop
    push ((← journal).transientSlot (← context).address key)
  | .tstore => proceed storeTransient
  | .mcopy => proceed <| copyMemory setting.rules
  | .push size => proceed <| pushOperand size.val
  | .dup depth => proceed <| dup (depth.val + 1)
  | .swap depth => proceed <| swap (depth.val + 1)
  | .log topics => proceed <| emitLog setting.rules topics.val
  | .create => create setting false
  | .create2 => create setting true
  | .call => call setting .call
  | .callcode => call setting .callCode
  | .delegatecall => call setting .delegateCall
  | .staticcall => call setting .staticCall
  | .ret => return .finish (← memoryOutput setting.rules)
  | .revert => return .revert (← memoryOutput setting.rules)
  | .selfdestruct => selfdestruct setting
  | .invalid => throw (.invalidOpcode 0xfe)

/-- One instruction. Past the end of the code the frame stops. -/
def step (setting : Setting) : Exec Control := do
  let current ← frame
  match current.code.bytes[current.position]? with
  | none => return .stop
  | some byte =>
    match setting.rules.opcodeGas byte, Opcode.ofByte? byte with
    | some price, some opcode =>
      useGas price
      modifyFrame fun frame => { frame with position := frame.position + 1 }
      execute setting opcode
    | _, _ => throw (.invalidOpcode byte)

end Exec

end StateTransition.Evm
