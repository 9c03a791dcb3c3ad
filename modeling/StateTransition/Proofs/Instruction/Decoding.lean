import StateTransition.Proofs.Instruction.PaddedReads

/-!
Code as a list of instructions. What is decoded from a position on, each instruction with its operand,
must end where the code ends, so there is at most one such list. Its instructions begin at the
boundaries that the scan of the code finds, and instructions that are written one after the other are
read back.
-/

namespace StateTransition.Evm

/-- An instruction and the word that its operand bytes spell, which is zero without operand bytes. -/
structure Instruction where
  opcode : Opcode
  operand : Word
  deriving DecidableEq, Repr

namespace Instruction

def toBytes (instruction : Instruction) : Bytes :=
  instruction.opcode.toByte ::
    Bytes.toBigEndian instruction.opcode.operandSize instruction.operand.toNat

def Fits (instruction : Instruction) : Prop :=
  instruction.operand.toNat < 256 ^ instruction.opcode.operandSize

def extent (instructions : List Instruction) : Nat :=
  (instructions.map fun instruction => 1 + instruction.opcode.operandSize).sum

/-- The instructions that code holds from a position to its end, with nothing left over. -/
inductive Decodes (code : Code) : Nat → List Instruction → Prop where
  | done : Decodes code code.size []
  | next {position : Nat} {byte : UInt8} {opcode : Opcode} {later : List Instruction}
      (holds : code.bytes[position]? = some byte) (named : Opcode.ofByte? byte = some opcode)
      (rest : Decodes code (position + 1 + opcode.operandSize) later) :
      Decodes code position
        (⟨opcode, Word.ofBytes
          (Bytes.padded code.bytes.toList (position + 1) opcode.operandSize)⟩ :: later)

theorem extent_cons (instruction : Instruction) (rest : List Instruction) :
    extent (instruction :: rest) = 1 + instruction.opcode.operandSize + extent rest := rfl

theorem extent_append (first second : List Instruction) :
    extent (first ++ second) = extent first + extent second := by
  rw [extent, List.map_append, List.sum_append]
  rfl

theorem length_toBytes (instruction : Instruction) :
    instruction.toBytes.length = 1 + instruction.opcode.operandSize := by
  rw [toBytes, List.length_cons, Bytes.length_toBigEndian, Nat.add_comm]

namespace Decodes

variable {code : Code} {position : Nat} {instructions later : List Instruction}

theorem unique (decodes : Decodes code position instructions) {others : List Instruction}
    (also : Decodes code position others) : instructions = others := by
  induction decodes generalizing others with
  | done =>
    cases also with
    | done => rfl
    | next holds => simp [Code.size] at holds
  | next holds named _ ih =>
    cases also with
    | done => simp [Code.size] at holds
    | next found called rest =>
      rw [holds] at found
      cases found
      rw [named] at called
      cases called
      rw [ih rest]

theorem skip {before : List Instruction} (decodes : Decodes code position (before ++ later)) :
    Decodes code (position + extent before) later := by
  induction before generalizing position with
  | nil => exact decodes
  | cons instruction before ih =>
    cases decodes with
    | next holds named rest =>
      rw [extent_cons, ← Nat.add_assoc, ← Nat.add_assoc]
      exact ih rest

theorem reachedFrom_iff {bytes : Bytes} {first : Nat}
    (decodes : Decodes (Code.ofBytes bytes) first instructions) (position : Nat) :
    Code.ReachedFrom bytes first position ↔
      ∃ before later, instructions = before ++ later ∧ position = first + extent before := by
  generalize same : Code.ofBytes bytes = code at decodes
  induction decodes with
  | done =>
    subst same
    have beyond : bytes[(Code.ofBytes bytes).size]? = none := by simp [Code.size, Code.ofBytes]
    constructor
    · intro reached
      exact ⟨[], [], rfl, reached.eq_of_beyond beyond⟩
    · rintro ⟨before, later, nothing, rfl⟩
      obtain ⟨rfl, -⟩ := List.nil_eq_append_iff.mp nothing
      exact .first
  | @next first byte opcode later holds named _ ih =>
    subst same
    have held : bytes[first]? = some byte := by simpa [Code.ofBytes] using holds
    -- the scan skips as many operand bytes as the decoder, so both are at the same next boundary
    rw [Code.ReachedFrom.iff_of_holds held, ← Opcode.operandSize_of_ofByte? named, ih]
    constructor
    · rintro (rfl | ⟨before, after, rfl, rfl⟩)
      · exact ⟨[], _, rfl, rfl⟩
      · refine ⟨_ :: before, after, rfl, ?_⟩
        simp only [extent_cons]
        omega
    · rintro ⟨before, after, split, rfl⟩
      cases before with
      | nil => exact .inl rfl
      | cons instruction before =>
        cases split
        refine .inr ⟨before, after, rfl, ?_⟩
        simp only [extent_cons]
        omega

end Decodes

section Written

variable {instruction : Instruction} {instructions later : List Instruction}

theorem ofBytes_digits (fits : instruction.Fits) :
    Word.ofBytes (Bytes.toBigEndian instruction.opcode.operandSize instruction.operand.toNat) =
      instruction.operand := by
  rw [Word.ofBytes, Bytes.ofBigEndian_toBigEndian, Nat.mod_eq_of_lt fits]
  exact BitVec.ofNat_toNat 256 _

theorem decodes_written (fits : instruction.Fits) (front back : Bytes)
    (decodes : Decodes (Code.ofBytes (front ++ (instruction.toBytes ++ back)))
      (front ++ instruction.toBytes).length later) :
    Decodes (Code.ofBytes (front ++ (instruction.toBytes ++ back))) front.length
      (instruction :: later) := by
  have holds : (Code.ofBytes (front ++ (instruction.toBytes ++ back))).bytes[front.length]? =
      some instruction.opcode.toByte := by
    simp [Code.ofBytes, toBytes]
  have behind : Bytes.padded (Code.ofBytes (front ++ (instruction.toBytes ++ back))).bytes.toList
      (front.length + 1) instruction.opcode.operandSize =
        Bytes.toBigEndian instruction.opcode.operandSize instruction.operand.toNat := by
    have digits := Bytes.padded_append (front ++ [instruction.opcode.toByte])
      (Bytes.toBigEndian instruction.opcode.operandSize instruction.operand.toNat) back
    rw [Bytes.length_toBigEndian, List.length_append] at digits
    simpa [Code.ofBytes, toBytes] using digits
  rw [List.length_append, length_toBytes, ← Nat.add_assoc] at decodes
  have read := Decodes.next holds (Opcode.ofByte?_toByte _) decodes
  rw [behind, ofBytes_digits fits] at read
  exact read

theorem decodes_flatMap (fits : ∀ instruction ∈ instructions, instruction.Fits) (front : Bytes) :
    Decodes (Code.ofBytes (front ++ instructions.flatMap toBytes)) front.length instructions := by
  -- an instruction that has been read joins what lies in front of the others
  induction instructions generalizing front with
  | nil =>
    have length : front.length = (Code.ofBytes (front ++ [])).size := by
      simp [Code.size, Code.ofBytes]
    rw [List.flatMap_nil, length]
    exact .done
  | cons instruction rest ih =>
    obtain ⟨first, others⟩ := List.forall_mem_cons.mp fits
    have later := ih others (front ++ instruction.toBytes)
    rw [List.append_assoc] at later
    exact decodes_written first front _ later

theorem decodes_iff (fits : ∀ instruction ∈ instructions, instruction.Fits)
    (others : List Instruction) :
    Decodes (Code.ofBytes (instructions.flatMap toBytes)) 0 others ↔ others = instructions := by
  have decodes := decodes_flatMap fits []
  constructor
  · intro also
    exact also.unique decodes
  · rintro rfl
    exact decodes

end Written

/-- Where a push is decoded the machine pushes its operand and goes on behind it, if there is gas
for it and room on the stack. -/
theorem Decodes.step_push {setting : Setting} {machine : Machine} {code : Code} {position price : Nat}
    {size : Fin 33} {operand : Word} {later : List Instruction}
    (decodes : Decodes code position (⟨.push size, operand⟩ :: later))
    (runs : machine.frame.code = code) (stands : machine.frame.position = position)
    (priced : setting.rules.opcodeGas (Opcode.push size).toByte = some price)
    (enough : price ≤ machine.frame.gas)
    (room : machine.frame.stack.toList.length < stackLimit) :
    ∃ after, Exec.step setting machine = .ok .next after ∧
      after.frame.stack.toList = operand :: machine.frame.stack.toList ∧
      after.frame.code = code ∧ after.frame.position = position + (1 + size) := by
  cases decodes with
  | next holds named rest =>
    subst runs stands
    have priced := Opcode.toByte_of_ofByte? named ▸ priced
    obtain ⟨pushed, list, run⟩ := Exec.step_push ⟨holds, priced, named, enough⟩ room
    rw [Code.ofBytes_operand] at list
    exact ⟨_, run, list, rfl, Nat.add_assoc _ 1 size⟩

end Instruction

end StateTransition.Evm
