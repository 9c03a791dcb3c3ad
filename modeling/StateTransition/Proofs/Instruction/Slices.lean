import StateTransition.Proofs.Instruction.Accesses
import StateTransition.Proofs.Instruction.Faults

/-!
Slices of code, call data and return data. The checked step takes every one of them, and the
position before the current one, only where they exist, and faults otherwise; it is the step itself.
-/

namespace StateTransition

def Bytes.slice? (bytes : Bytes) (start stop : Nat) : Option Bytes :=
  if start ≤ stop ∧ stop ≤ bytes.length then some (bytes.slice start stop) else none

theorem Bytes.slice?_of_le (bytes : Bytes) {start stop : Nat} (ordered : start ≤ stop)
    (inside : stop ≤ bytes.length) : bytes.slice? start stop = some (bytes.slice start stop) := by
  rw [slice?, if_pos ⟨ordered, inside⟩]

namespace Evm

def Memory.filledChecked? (source : Bytes) (start size : Nat) : Option Bytes :=
  let available := min (source.length - start) size
  if 0 < available then
    (source.slice? start (start + available)).map (· ++ Bytes.zeros (size - available))
  else some (Bytes.zeros size)

theorem Memory.filledChecked?_eq (source : Bytes) (start size : Nat) :
    filledChecked? source start size = some (filled source start size) := by
  simp only [filledChecked?, filled]
  split
  · rw [source.slice?_of_le (Nat.le_add_right _ _) (by omega), Option.map_some]
  · rename_i none
    have nothing : min (source.length - start) size = 0 := by omega
    simp [nothing, Bytes.slice]

def Code.operandChecked? (code : Code) (position size : Nat) : Option Bytes :=
  let start := min position code.size
  let stop := min (position + size) code.size
  (Bytes.slice? code.bytes.toList start stop).map fun operand =>
    Bytes.zeros (32 - size) ++ operand ++ Bytes.zeros (size - (stop - start))

theorem Code.operandChecked?_eq (code : Code) (position size : Nat) :
    code.operandChecked? position size = some (code.operand position size) := by
  have inside : min (position + size) code.size ≤ code.bytes.toList.length := by
    rw [Array.length_toList]
    exact Nat.min_le_right _ _
  rw [operandChecked?, Bytes.slice?_of_le _ (by omega) inside, Option.map_some, operand]
  simp [Bytes.slice, List.extract]

namespace Exec

variable {α : Type} {machine : Machine} {rules : Rules} {setting : Setting}

def inputAtChecked? (input : Bytes) (offset : Nat) : Option Bytes :=
  if offset < input.length then
    let stop := min (offset + 32) input.length
    (input.slice? offset stop).map (· ++ Bytes.zeros (32 - (stop - offset)))
  else some (Bytes.zeros 32)

theorem inputAtChecked?_eq (input : Bytes) (offset : Nat) :
    inputAtChecked? input offset = some (inputAt input offset) := by
  rw [inputAtChecked?, inputAt]
  split
  · have ordered : offset ≤ min (offset + 32) input.length := by omega
    simp only [input.slice?_of_le ordered (Nat.min_le_right _ _), Option.map_some]
  · rfl

/-- What has to be there; otherwise the frame faults. -/
def expect : Option α → Exec α
  | some answer => pure answer
  | none => throw .memoryFault

def copyToMemoryChecked (rules : Rules) (source : Bytes) : Exec Unit := do
  let (target, start, length) ← popThree
  let (offset, size) ← memoryRange rules target length
  useGas (Gas.copy rules size)
  writeBytes offset (← expect (Memory.filledChecked? source start.saturated size))

def copyExternalCodeChecked (rules : Rules) : Exec Unit := do
  let address ← popAddress
  let (target, start, length) ← popThree
  accessAccount rules address
  let (offset, size) ← memoryRange rules target length
  useGas (Gas.copy rules size)
  let code := (← journal).code address
  writeBytes offset (← expect (Memory.filledChecked? code start.saturated size))

def copyReturnDataChecked (rules : Rules) : Exec Unit := do
  let (target, source, length) ← popThree
  let data := (← frame).returnData
  require (source.toNat + length.toNat ≤ data.length) .returnDataOutOfBounds
  let (offset, size) ← memoryRange rules target length
  useGas (Gas.copy rules size)
  writeBytes offset (← expect (data.slice? source.toNat (source.toNat + size)))

def pushOperandChecked (size : Nat) : Exec Unit := do
  let current ← frame
  let operand ← expect (current.code.operandChecked? current.position size)
  push (Word.ofBytes operand)
  modifyFrame fun frame => { frame with position := frame.position + size }

def executeChecked (setting : Setting) : Opcode → Exec Control
  | .calldataload => proceed do
    let offset ← pop
    push (Word.ofBytes (← expect (inputAtChecked? (← context).input offset.saturated)))
  | .calldatacopy => proceed do copyToMemoryChecked setting.rules (← context).input
  | .codecopy => proceed do copyToMemoryChecked setting.rules (← frame).code.bytes.toList
  | .extcodecopy => proceed <| copyExternalCodeChecked setting.rules
  | .returndatacopy => proceed <| copyReturnDataChecked setting.rules
  | .pc => proceed do
    let position := (← frame).position
    pushNat (← expect (if 0 < position then some (position - 1) else none))
  | .push size => proceed <| pushOperandChecked size.val
  | opcode => execute setting opcode

/-- One instruction, with every slice checked. -/
def stepChecked (setting : Setting) : Exec Control := do
  let current ← frame
  match current.code.bytes[current.position]? with
  | none => return .stop
  | some byte =>
    match setting.rules.opcodeGas byte, Opcode.ofByte? byte with
    | some price, some opcode =>
      useGas price
      modifyFrame fun frame => { frame with position := frame.position + 1 }
      executeChecked setting opcode
    | _, _ => throw (.invalidOpcode byte)

theorem copyToMemoryChecked_eq (rules : Rules) (source : Bytes) :
    copyToMemoryChecked rules source = copyToMemory rules source := by
  simp only [copyToMemoryChecked, copyToMemory, Memory.filledChecked?_eq, expect, pure_bind]

theorem copyExternalCodeChecked_eq (rules : Rules) :
    copyExternalCodeChecked rules = copyExternalCode rules := by
  simp only [copyExternalCodeChecked, copyExternalCode, Memory.filledChecked?_eq, expect, pure_bind]

theorem pushOperandChecked_eq (size : Nat) : pushOperandChecked size = pushOperand size := by
  simp only [pushOperandChecked, pushOperand, Code.operandChecked?_eq, expect, pure_bind]

theorem copyReturnDataChecked_eq (rules : Rules) :
    copyReturnDataChecked rules machine = copyReturnData rules machine := by
  apply bind_congr_at rfl
  intro operands popped _
  apply bind_congr_at rfl
  intro current framed _
  apply bind_congr_at rfl
  intro _ checked accepts
  apply bind_congr_at rfl
  intro range grown sized
  apply bind_congr_at rfl
  intro _ paid _
  have inside : operands.2.1.toNat + operands.2.2.toNat ≤ current.returnData.length := by
    rw [require] at accepts
    split at accepts
    · rename_i fits
      exact of_decide_eq_true fits
    · cases accepts
  have size : range.2 = operands.2.2.toNat := ((ensures_memoryRange _ _).of_run sized).1
  rw [size, Bytes.slice?_of_le _ (Nat.le_add_right _ _) inside, Bytes.slice, Nat.add_sub_cancel_left]
  rfl

theorem executeChecked_eq (advanced : 0 < machine.frame.position) (opcode : Opcode) :
    executeChecked setting opcode machine = execute setting opcode machine := by
  cases opcode with
  | calldataload =>
    simp only [executeChecked, execute, inputAtChecked?_eq, expect, pure_bind]
  | calldatacopy | codecopy => simp only [executeChecked, execute, copyToMemoryChecked_eq]
  | extcodecopy => simp only [executeChecked, execute, copyExternalCodeChecked_eq]
  | returndatacopy => exact bind_congr_at (copyReturnDataChecked_eq _) fun _ _ _ => rfl
  | pc =>
    refine bind_congr_at (bind_congr_at rfl ?_) fun _ _ _ => rfl
    intro current framed frames
    cases frames
    simp only [if_pos advanced]
    rfl
  | push size => simp only [executeChecked, execute, pushOperandChecked_eq]
  | _ => rfl

theorem stepChecked_eq (setting : Setting) : stepChecked setting machine = step setting machine := by
  apply bind_congr_at rfl
  intro current framed frames
  cases current.code.bytes[current.position]? with
  | none => rfl
  | some byte =>
    simp only
    cases setting.rules.opcodeGas byte with
    | none => rfl
    | some price =>
      cases Opcode.ofByte? byte with
      | none => rfl
      | some opcode =>
        apply bind_congr_at rfl
        intro _ paid _
        apply bind_congr_at rfl
        intro _ advanced moves
        cases moves
        exact executeChecked_eq (Nat.succ_pos _) opcode

end Exec

end Evm

end StateTransition
