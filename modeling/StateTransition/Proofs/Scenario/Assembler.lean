import StateTransition.Proofs.Instruction.Decoding
import StateTransition.Proofs.Word.Arithmetic
import StateTransition.Proofs.Word.Forms
import StateTransition.Scenario.Assembler

namespace StateTransition.Scenario

open Evm (Code Instruction Machine Opcode Setting stackLimit)

/-- What the assembler can be asked to put behind the code it has. -/
inductive Directive where
  | push (value : Word)
  | pushAddress (address : Address)
  | operation (opcode : Opcode) (plain : opcode.operandSize = 0)
  | dup (place : Nat) (within : 1 ≤ place ∧ place ≤ 16)
  | store (key value : Word)

theorem isLeast_pushWidth (value : Word) :
    IsLeast {width | 1 ≤ width ∧ value.toNat < 2 ^ (8 * width)} (AssemblyItem.pushWidth value) := by
  obtain ⟨holds, least⟩ := value.isLeast_byteLength
  refine ⟨⟨Nat.le_max_right _ _, ?_⟩, ?_⟩
  · have longer : 8 * value.byteLength ≤ 8 * AssemblyItem.pushWidth value :=
      Nat.mul_le_mul_left 8 (Nat.le_max_left _ _)
    exact Nat.lt_of_lt_of_le holds (Nat.pow_le_pow_right Nat.two_pos longer)
  · rintro width ⟨any, enough⟩
    exact Nat.max_le.mpr ⟨least enough, any⟩

def pushSize (value : Word) : Fin 33 :=
  ⟨AssemblyItem.pushWidth value,
    Nat.lt_succ_of_le ((isLeast_pushWidth value).2 ⟨by decide, value.isLt⟩)⟩

namespace Directive

def items : Directive → List AssemblyItem
  | push value => [.push value]
  | pushAddress address => [.pushAddress address]
  | operation opcode _ => [.operation opcode]
  | dup place _ => [.operation (.dup ⟨place - 1, by omega⟩)]
  | store key value => AssemblyItem.store key value

def instructions : Directive → List Instruction
  | push value => [⟨.push (pushSize value), value⟩]
  | pushAddress address => [⟨.push 20, address.toWord⟩]
  | operation opcode _ => [⟨opcode, 0#256⟩]
  | dup place _ => [⟨.dup ⟨place - 1, by omega⟩, 0#256⟩]
  | store key value =>
    [⟨.push (pushSize value), value⟩, ⟨.push (pushSize key), key⟩, ⟨.sstore, 0#256⟩]

def build (directives : List Directive) : Bytes := assemble (directives.flatMap items)

def program (directives : List Directive) : List Instruction := directives.flatMap instructions

theorem toBytes_pushAddress (address : Address) :
    (AssemblyItem.pushAddress address).toBytes =
      Instruction.toBytes ⟨.push 20, address.toWord⟩ := by
  rw [Instruction.toBytes, address.toNat_toWord]
  rfl

theorem toBytes_operation {opcode : Opcode} (plain : opcode.operandSize = 0) :
    (AssemblyItem.operation opcode).toBytes = Instruction.toBytes ⟨opcode, 0#256⟩ := by
  rw [Instruction.toBytes, plain]
  rfl

theorem flatMap_items (directive : Directive) :
    directive.items.flatMap AssemblyItem.toBytes =
      directive.instructions.flatMap Instruction.toBytes := by
  cases directive with
  | push value => rfl
  | pushAddress address =>
    rw [items, instructions, List.flatMap_singleton, List.flatMap_singleton, toBytes_pushAddress]
  | operation opcode plain =>
    rw [items, instructions, List.flatMap_singleton, List.flatMap_singleton,
      toBytes_operation plain]
  | dup place within => rfl
  | store key value => rfl

theorem build_eq (directives : List Directive) :
    build directives = (program directives).flatMap Instruction.toBytes := by
  rw [build, assemble, program, List.flatMap_assoc, List.flatMap_assoc]
  exact congrArg directives.flatMap (funext flatMap_items)

theorem fits_push (value : Word) : Instruction.Fits ⟨.push (pushSize value), value⟩ := by
  have holds := (isLeast_pushWidth value).1.2
  rw [Nat.pow_mul] at holds
  exact holds

theorem fits_plain {opcode : Opcode} (plain : opcode.operandSize = 0) :
    Instruction.Fits ⟨opcode, 0#256⟩ := by
  rw [Instruction.Fits, plain]
  exact Nat.zero_lt_one

theorem fits_instructions (directive : Directive) :
    ∀ instruction ∈ directive.instructions, instruction.Fits := by
  cases directive with
  | push value => simpa [instructions] using fits_push value
  | pushAddress address =>
    have fits : Instruction.Fits ⟨.push 20, address.toWord⟩ := by
      rw [Instruction.Fits, address.toNat_toWord]
      exact address.bits.isLt
    simpa [instructions] using fits
  | operation opcode plain => simpa [instructions] using fits_plain plain
  | dup place within => simpa [instructions] using fits_plain rfl
  | store key value =>
    simp only [instructions, List.forall_mem_cons, List.not_mem_nil, false_implies, implies_true,
      and_true]
    exact ⟨fits_push value, fits_push key, fits_plain rfl⟩

theorem fits_program (directives : List Directive) :
    ∀ instruction ∈ program directives, instruction.Fits := by
  intro instruction member
  obtain ⟨directive, -, asked⟩ := List.mem_flatMap.mp member
  exact directive.fits_instructions instruction asked

theorem decodes_build (directives : List Directive) (instructions : List Instruction) :
    Instruction.Decodes (Code.ofBytes (build directives)) 0 instructions ↔
      instructions = program directives := by
  rw [build_eq]
  exact Instruction.decodes_iff (fits_program directives) instructions

/-- Built code decodes to the instructions that were asked for and to nothing else, and they begin
where the machine's scan finds boundaries. A value is pushed by the shortest operand that holds it, of
one byte at least, and a machine that gets to a push goes on behind it with the operand on its stack,
if there is gas for it and room. -/
theorem build_reads_back (directives : List Directive) :
    (∀ instructions, Instruction.Decodes (Code.ofBytes (build directives)) 0 instructions ↔
      instructions = program directives) ∧
    (∀ position, Code.IsBoundary (build directives) position ↔
      ∃ before later, program directives = before ++ later ∧
        position = Instruction.extent before) ∧
    (∀ value, ∃ width : Fin 33, (push value).instructions = [⟨.push width, value⟩] ∧
      IsLeast {width | 1 ≤ width ∧ value.toNat < 2 ^ (8 * width)} width.val) ∧
    ∀ {before later : List Instruction} {width : Fin 33} {operand : Word},
      program directives = before ++ ⟨.push width, operand⟩ :: later →
      ∀ {setting : Setting} {machine : Machine} {price : Nat},
        machine.frame.code = Code.ofBytes (build directives) →
        machine.frame.position = Instruction.extent before →
        setting.rules.opcodeGas (Opcode.push width).toByte = some price →
        price ≤ machine.frame.gas → machine.frame.stack.toList.length < stackLimit →
          ∃ after, Evm.Exec.step setting machine = .ok .next after ∧
            after.frame.stack.toList = operand :: machine.frame.stack.toList ∧
            after.frame.code = Code.ofBytes (build directives) ∧
            after.frame.position = Instruction.extent (before ++ [⟨.push width, operand⟩]) := by
  have decodes := (decodes_build directives _).mpr rfl
  refine ⟨decodes_build directives, ?_, ?_, ?_⟩
  · intro position
    simp only [Code.IsBoundary, decodes.reachedFrom_iff, Nat.zero_add]
  · exact fun value => ⟨pushSize value, rfl, isLeast_pushWidth value⟩
  · intro before later width operand split setting machine price runs stands priced enough room
    rw [split] at decodes
    have pushed := decodes.skip
    rw [Nat.zero_add] at pushed
    rw [Instruction.extent_append]
    exact pushed.step_push runs stands priced enough room

theorem build_reads_back_operand : ∃ after,
    Evm.Exec.step Evm.readingSetting (Evm.readingMachine
      (build [.push 0x605b#256, .operation .add rfl, .store 1#256 0#256]) .empty .empty) =
        .ok .next after ∧
      after.frame.stack.toList = [0x605b#256] ∧ after.frame.position = 3 := by
  have priced : Evm.readingSetting.rules.opcodeGas (Opcode.push 2).toByte = some 3 := by
    simp only [Evm.readingSetting, Mainnet.rules_eq_readOff]
    decide +kernel
  obtain ⟨-, -, -, executes⟩ :=
    build_reads_back [.push 0x605b#256, .operation .add rfl, .store 1#256 0#256]
  obtain ⟨after, run, stack, -, position⟩ :=
    @executes [] [⟨.add, 0#256⟩, ⟨.push 1, 0#256⟩, ⟨.push 1, 1#256⟩, ⟨.sstore, 0#256⟩] 2 0x605b#256
      (by decide +kernel) Evm.readingSetting (Evm.readingMachine _ .empty .empty) 3 rfl rfl priced
      (by decide) (by decide)
  exact ⟨after, run, stack, position⟩

end Directive

end StateTransition.Scenario
