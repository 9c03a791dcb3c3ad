import StateTransition.Proofs.Bytes
import StateTransition.Proofs.Instruction.Operands
import StateTransition.Proofs.Instruction.Positions
import StateTransition.Proofs.Instruction.Slices
import StateTransition.Proofs.Word.Spelling

/-!
Reading past the end. What is read of call data or code beyond their last byte is zero, and it is
the same whether a word is pushed at once or copied to memory and read there.
-/

namespace StateTransition

/-- The bytes from a place on, each looked up by itself; past the end they are zero. -/
def Bytes.padded (source : Bytes) (start size : Nat) : Bytes :=
  List.ofFn fun place : Fin size => source[start + place.val]?.getD 0

namespace Bytes

variable {source : Bytes} {start stop size place : Nat}

theorem length_padded (source : Bytes) (start size : Nat) :
    (source.padded start size).length = size := List.length_ofFn

theorem getElem?_padded (inside : place < size) :
    (source.padded start size)[place]? = some (source[start + place]?.getD 0) := by
  rw [padded, List.getElem?_ofFn, dif_pos inside]

theorem slice_append_zeros (ordered : start ≤ stop) (inside : stop ≤ source.length)
    (reaches : stop - start ≤ size) (whole : stop < start + size → source.length ≤ stop) :
    source.slice start stop ++ zeros (size - (stop - start)) = source.padded start size := by
  have length : (source.slice start stop).length = stop - start := length_slice inside
  apply List.ext_getElem?
  intro place
  by_cases outside : size ≤ place
  · rw [List.getElem?_eq_none, List.getElem?_eq_none]
    · rwa [length_padded]
    · rw [List.length_append, length, length_zeros]
      omega
  rw [getElem?_padded (Nat.lt_of_not_le outside)]
  by_cases held : place < stop - start
  · rw [List.getElem?_append_left (length ▸ held), getElem?_slice, if_pos held,
      List.getElem?_eq_getElem (by omega), Option.getD_some]
  · have past : source.length ≤ start + place := Nat.le_trans (whole (by omega)) (by omega)
    rw [List.getElem?_append_right (by omega), length, List.getElem?_eq_none past, zeros,
      List.getElem?_replicate, if_pos (by omega)]
    rfl

theorem padded_of_length_le (past : source.length ≤ start) :
    source.padded start size = zeros size := by
  apply List.ext_getElem
  · rw [length_padded, length_zeros]
  · intro place _ _
    simp [padded, zeros, Nat.le_add_right_of_le past]

theorem padded_append (first middle rest : Bytes) :
    Bytes.padded (first ++ (middle ++ rest)) first.length middle.length = middle := by
  apply List.ext_getElem?
  intro place
  by_cases inside : place < middle.length
  · rw [getElem?_padded inside, List.getElem?_append_right (Nat.le_add_right _ _),
      Nat.add_sub_cancel_left, List.getElem?_append_left inside, List.getElem?_eq_getElem inside,
      Option.getD_some]
  · rw [List.getElem?_eq_none (Nat.le_of_not_lt inside), List.getElem?_eq_none]
    rw [length_padded]
    exact Nat.le_of_not_lt inside

theorem padded_saturated (fits : source.length < UInt64.size) (start : Word) (size : Nat) :
    source.padded start.saturated size = source.padded start.toNat size := by
  by_cases near : start.toNat ≤ UInt64.size - 1
  · rw [Word.saturated, Nat.min_eq_left near]
  · rw [Word.saturated, padded_of_length_le (by omega), padded_of_length_le (by omega)]

end Bytes

theorem Word.toNat_ofBytes {bytes : Bytes} (short : bytes.length ≤ 32) :
    (Word.ofBytes bytes).toNat = bytes.ofBigEndian := by
  have below : bytes.ofBigEndian < 2 ^ 256 := calc
    bytes.ofBigEndian < 256 ^ bytes.length := bytes.ofBigEndian_lt
    _ ≤ 256 ^ 32 := Nat.pow_le_pow_right (by decide) short
    _ = 2 ^ 256 := by decide
  rw [ofBytes, ofNat, BitVec.toNat_ofNat, Nat.mod_eq_of_lt below]

theorem Word.toBytes_ofBytes {bytes : Bytes} (full : bytes.length = 32) :
    (ofBytes bytes).toBytes = bytes := by
  have digits := bytes.toBigEndian_ofBigEndian
  rw [full] at digits
  rw [toBytes, toNat_ofBytes (Nat.le_of_eq full), digits]

namespace Evm

theorem Exec.inputAt_eq_padded (input : Bytes) (offset : Nat) :
    inputAt input offset = input.padded offset 32 := by
  rw [inputAt]
  split
  · exact Bytes.slice_append_zeros (by omega) (Nat.min_le_right _ _) (by omega) (by omega)
  · rename_i past
    rw [Bytes.padded_of_length_le (Nat.le_of_not_lt past)]

theorem Memory.filled_eq_padded (source : Bytes) (start size : Nat) :
    filled source start size = source.padded start size := by
  by_cases past : source.length ≤ start
  · rw [Bytes.padded_of_length_le past, filled, Nat.sub_eq_zero_of_le past]
    simp [Bytes.slice]
  · have shown : source.slice start (start + min (source.length - start) size) ++
        Bytes.zeros (size - (start + min (source.length - start) size - start)) =
          source.padded start size :=
      Bytes.slice_append_zeros (Nat.le_add_right _ _) (by omega) (by omega) (by omega)
    rwa [Nat.add_sub_cancel_left] at shown

theorem Code.operand_eq_padded (code : Code) (position size : Nat) :
    code.operand position size =
      Bytes.zeros (32 - size) ++ Bytes.padded code.bytes.toList position size := by
  have same : (code.bytes.extract (min position code.size) (min (position + size) code.size)).toList
      = Bytes.slice code.bytes.toList (min position code.size) (min (position + size) code.size) := by
    simp [Bytes.slice, List.extract]
  have length : code.bytes.toList.length = code.size := Array.length_toList
  rw [operand, same, List.append_assoc]
  congr 1
  by_cases past : code.size ≤ position
  · rw [Bytes.padded_of_length_le (length ▸ past), Nat.min_eq_right past,
      Nat.min_eq_right (Nat.le_add_right_of_le past), Bytes.slice, Nat.sub_self]
    rfl
  · rw [Nat.min_eq_left (Nat.le_of_not_le past)]
    exact Bytes.slice_append_zeros (by omega) (by omega) (by omega) (by omega)

/-- The zeros in front of an operand make no difference to the word it spells. -/
theorem Code.ofBytes_operand (code : Code) (position size : Nat) :
    Word.ofBytes (code.operand position size) =
      Word.ofBytes (Bytes.padded code.bytes.toList position size) := by
  rw [operand_eq_padded, Word.ofBytes, Bytes.ofBigEndian_zeros_append, Word.ofBytes]

namespace Memory

variable {memory : Memory} {offset size : Nat}

theorem covers_iff : memory.covers offset size = true ↔
    size = 0 ∨ offset + size ≤ memory.bytes.size := by
  simp only [covers, Bool.or_eq_true, beq_iff_eq, decide_eq_true_eq]
  rfl

theorem getElem?_overwrite (target : Array UInt8) (offset : Nat) (data : Bytes) (place : Nat) :
    (overwrite target offset data)[place]? =
      if offset ≤ place ∧ place < offset + data.length ∧ place < target.size then
        data[place - offset]?
      else target[place]? := by
  induction data generalizing target offset with
  | nil =>
    rw [overwrite, if_neg]
    rintro ⟨above, below, -⟩
    exact Nat.not_lt.mpr above below
  | cons byte rest ih =>
    rw [overwrite, ih, Array.getElem?_setIfInBounds, Array.size_setIfInBounds, List.length_cons]
    grind

theorem slice?_write {data : Bytes} (covered : memory.covers offset data.length) :
    (memory.write offset data).slice? offset data.length = some data := by
  have same : (memory.write offset data).covers offset data.length = true := by
    rw [covers_iff, write, size_overwrite]
    exact covers_iff.mp covered
  rw [slice?, if_pos same]
  refine congrArg some (List.ext_getElem? fun place => ?_)
  rw [covers_iff] at covered
  simp only [write, Array.getElem?_toList, Array.getElem?_extract, getElem?_overwrite,
    size_overwrite]
  grind

theorem slice?_zero (memory : Memory) (offset : Nat) : memory.slice? offset 0 = some [] := by
  rw [slice?, if_pos (covers_iff.mpr (.inl rfl))]
  simp

theorem words_of_covers (positive : 0 < size) (covered : memory.covers offset size) :
    wordCount (offset + size) ≤ memory.words := by
  have aligned := memory.aligned
  rw [covers_iff] at covered
  rw [wordCount, words]
  omega

theorem resizeWords_of_le {count : Nat} (large : count ≤ memory.words) :
    memory.resizeWords count = memory := by
  have nothing : 32 * count - memory.bytes.size = 0 := by
    rw [words] at large
    omega
  cases memory
  simp only [resizeWords, nothing, Array.replicate_zero, Array.append_empty]

end Memory

/-- The frame is at an instruction whose static price it can pay, with these items on its stack. -/
structure Machine.Faces (setting : Setting) (machine : Machine) (opcode : Opcode)
    (items : List Word) : Prop where
  stands : ∃ byte price, machine.StandsAt setting.rules byte opcode price
  items : machine.frame.stack.toList = items

/-- The next instruction ends well and leaves these items on the stack. -/
def Machine.Leaves (setting : Setting) (machine : Machine) (items : List Word) : Prop :=
  ∃ after, Exec.step setting machine = .ok .next after ∧ after.frame.stack.toList = items

namespace Exec

variable {rules : Rules} {setting : Setting} {machine : Machine} {rest : List Word}

theorem memoryRange_cases (offset size : Word) :
    (∃ halted, memoryRange rules offset size machine = .error .outOfGas halted) ∨
      ∃ start after, memoryRange rules offset size machine = .ok (start, size.toNat) after ∧
        after.frame.memory.covers start size.toNat = true ∧
        (size.isZero = false → start = offset.toNat ∧ offset.toNat ≤ memoryLimit) := by
  cases empty : size.isZero with
  | true =>
    have nothing : size.toNat = 0 := by
      rw [beq_iff_eq.mp empty]
      rfl
    rw [memoryRange_of_isZero empty, nothing]
    exact .inr ⟨0, machine, rfl, Memory.covers_iff.mpr (.inl rfl), nofun⟩
  | false =>
    rw [memoryRange_eq empty]
    split
    · rename_i paid
      exact .inr ⟨_, _, rfl, Memory.covers_resizeWords _ _ _, fun _ => ⟨rfl, paid.1.1⟩⟩
    · exact .inl ⟨machine, rfl⟩

theorem payAndWrite_cases (price : Nat) {offset : Nat} {data : Bytes}
    (covered : machine.frame.memory.covers offset data.length = true) :
    (∃ halted, (useGas price >>= fun _ => writeBytes offset data) machine =
        .error .outOfGas halted) ∨
      ∃ copied, (useGas price >>= fun _ => writeBytes offset data) machine = .ok () copied ∧
        copied.frame.memory = machine.frame.memory.write offset data := by
  by_cases short : machine.frame.gas < price
  · left
    simp [bind, EStateM.bind, useGas, short]
  · right
    simp [bind, EStateM.bind, useGas, short, writeBytes, covered]

theorem copyToMemory_cases (source : Bytes) {target start length : Word}
    (items : machine.frame.stack.toList = [target, start, length] ++ rest) :
    (∃ halted, copyToMemory rules source machine = .error .outOfGas halted) ∨
      ∃ copied, copyToMemory rules source machine = .ok () copied ∧
        copied.frame.memory.slice? target.toNat length.toNat =
          some (Memory.filled source start.saturated length.toNat) ∧
        (length.isZero = false → target.toNat ≤ memoryLimit) := by
  obtain ⟨words, stack, taken, popped, -⟩ := popMany_operands 3 items rfl (by decide)
  have first : target = words[0] := Option.some.inj (taken 0)
  have second : start = words[1] := Option.some.inj (taken 1)
  have third : length = words[2] := Option.some.inj (taken 2)
  have sized : (Memory.filled source start.saturated length.toNat).length = length.toNat :=
    Memory.length_filled _ _ _
  have runs : copyToMemory rules source machine = (memoryRange rules target length >>= fun range =>
      useGas (Gas.copy rules range.2) >>= fun _ =>
        writeBytes range.1 (Memory.filled source start.saturated range.2))
        { machine with frame := { machine.frame with stack } } := by
    rw [copyToMemory, popThree, bind_assoc, bind_of_ok popped, pure_bind, first, second, third]
  rw [runs]
  rcases memoryRange_cases target length with
    ⟨halted, halts⟩ | ⟨place, ranged, ranges, covered, lies⟩
  · left
    exact ⟨halted, bind_of_error halts⟩
  rw [bind_of_ok ranges]
  rw [← sized] at covered
  rcases payAndWrite_cases _ covered with halts | ⟨copied, run, writes⟩
  · exact .inl halts
  refine .inr ⟨copied, run, ?_, fun nonempty => (lies nonempty).2⟩
  have back := Memory.slice?_write covered
  rw [← writes, sized] at back
  cases empty : length.isZero with
  | false => rw [← (lies empty).1, back]
  | true =>
    have nothing : length.toNat = 0 := by
      rw [beq_iff_eq.mp empty]
      rfl
    rw [nothing] at back ⊢
    rw [Memory.slice?_zero] at back ⊢
    exact back

theorem pop_operand {word : Word} (items : machine.frame.stack.toList = word :: rest) :
    ∃ stack : Stack,
      pop machine = .ok word { machine with frame := { machine.frame with stack } } ∧
      ∀ result : Word, ∃ pushed,
        Stack.push result stack = .ok () pushed ∧ pushed.toList = result :: rest := by
  obtain ⟨stack, left, popped⟩ := pop_of_items items
  refine ⟨stack, popped, fun result => ?_⟩
  have bound := Stack.length_toList_le machine.frame.stack
  rw [items, List.length_cons] at bound
  rw [← left] at bound ⊢
  exact Stack.push_of_length_lt result bound

theorem leaves_calldataload {offset : Word}
    (faces : machine.Faces setting .calldataload (offset :: rest)) :
    machine.Leaves setting
      (Word.ofBytes (inputAt machine.frame.context.input offset.saturated) :: rest) := by
  obtain ⟨⟨byte, price, stands⟩, items⟩ := faces
  have items : (machine.begin price).frame.stack.toList = offset :: rest := items
  obtain ⟨stack, popped, room⟩ := pop_operand items
  obtain ⟨pushed, fits, list⟩ :=
    room (Word.ofBytes (inputAt machine.frame.context.input offset.saturated))
  refine ⟨{ machine.begin price with
    frame := { (machine.begin price).frame with stack := pushed } }, ?_, list⟩
  rw [step_of_standsAt stands, execute, proceed, bind_assoc, bind_of_ok popped]
  simp only [context, push, onStack, bind, EStateM.bind, Machine.begin, fits]
  rfl

theorem memoryRange_of_covers {offset size : Word} (nonempty : size.isZero = false)
    (near : offset.toNat ≤ memoryLimit ∧ size.toNat ≤ memoryLimit)
    (covered : machine.frame.memory.covers offset.toNat size.toNat = true) :
    memoryRange rules offset size machine = .ok (offset.toNat, size.toNat) machine := by
  have positive : 0 < size.toNat := Nat.pos_of_ne_zero fun zero => by
    have nothing : size = 0#256 := BitVec.eq_of_toNat_eq zero
    rw [nothing] at nonempty
    cases nonempty
  have large := Memory.words_of_covers positive covered
  have free : Gas.memoryGrowth rules machine.frame.memory.words
      (wordCount (offset.toNat + size.toNat)) = 0 := if_pos large
  rw [memoryRange_eq nonempty, if_pos ⟨near, by rw [free]; exact Nat.zero_le _⟩, Frame.grow, free,
    Memory.resizeWords_of_le large, Nat.sub_zero]

theorem leaves_mload {offset : Word} {bytes : Bytes}
    (faces : machine.Faces setting .mload (offset :: rest)) (near : offset.toNat ≤ memoryLimit)
    (held : machine.frame.memory.slice? offset.toNat 32 = some bytes) :
    machine.Leaves setting (Word.ofBytes bytes :: rest) := by
  obtain ⟨⟨byte, price, stands⟩, items⟩ := faces
  have items : (machine.begin price).frame.stack.toList = offset :: rest := items
  obtain ⟨stack, popped, room⟩ := pop_operand items
  obtain ⟨pushed, fits, list⟩ := room (Word.ofBytes bytes)
  have covered : machine.frame.memory.covers offset.toNat 32 = true := by
    rw [Memory.slice?] at held
    split at held
    · assumption
    · cases held
  have loads : machine.frame.memory.load? offset.toNat = some (Word.ofBytes bytes) := by
    rw [Memory.load?, held, Option.map_some]
  refine ⟨{ machine.begin price with
    frame := { (machine.begin price).frame with stack := pushed } }, ?_, list⟩
  rw [step_of_standsAt stands, execute, proceed, bind_assoc, bind_of_ok popped, bind_assoc,
    bind_of_ok (memoryRange_of_covers rfl ⟨near, by decide⟩ covered)]
  simp only [loadWord, push, onStack, bind, EStateM.bind, Machine.begin, loads, fits]
  rfl

theorem step_copy_cases {opcode : Opcode} (source : Bytes) {target start length : Word}
    (faces : machine.Faces setting opcode (target :: start :: length :: rest))
    (copies : ∀ price, execute setting opcode (machine.begin price) =
      proceed (copyToMemory setting.rules source) (machine.begin price)) :
    (∃ halted, step setting machine = .error .outOfGas halted) ∨
      ∃ copied, step setting machine = .ok .next copied ∧
        copied.frame.memory.slice? target.toNat length.toNat =
          some (Memory.filled source start.saturated length.toNat) ∧
        (length.isZero = false → target.toNat ≤ memoryLimit) := by
  obtain ⟨⟨byte, price, stands⟩, items⟩ := faces
  have items : (machine.begin price).frame.stack.toList = [target, start, length] ++ rest := items
  rw [step_of_standsAt stands, copies]
  rcases copyToMemory_cases source items with ⟨halted, halts⟩ | ⟨copied, run, written, near⟩
  · exact .inl ⟨halted, bind_of_error halts⟩
  · exact .inr ⟨copied, bind_of_ok run, written, near⟩

theorem step_push {byte : UInt8} {size : Fin 33} {price : Nat}
    (stands : machine.StandsAt setting.rules byte (.push size) price)
    (room : machine.frame.stack.toList.length < stackLimit) :
    ∃ pushed : Stack,
      pushed.toList =
        Word.ofBytes (machine.frame.code.operand (machine.frame.position + 1) size) ::
          machine.frame.stack.toList ∧
      step setting machine = .ok .next { machine.begin price with
        frame := { (machine.begin price).frame with
          stack := pushed, position := machine.frame.position + 1 + size } } := by
  obtain ⟨pushed, fits, list⟩ := Stack.push_of_length_lt
    (Word.ofBytes (machine.frame.code.operand (machine.frame.position + 1) size)) room
  refine ⟨pushed, list, ?_⟩
  rw [step_of_standsAt stands]
  simp only [execute, proceed, pushOperand, frame, push, onStack, modifyFrame, bind, EStateM.bind,
    Machine.begin, fits]
  rfl

theorem leaves_push {size : Fin 33} (faces : machine.Faces setting (.push size) rest)
    (room : rest.length < stackLimit) :
    machine.Leaves setting
      (Word.ofBytes (machine.frame.code.operand (machine.frame.position + 1) size) :: rest) := by
  obtain ⟨⟨byte, price, stands⟩, items⟩ := faces
  rw [← items] at room ⊢
  obtain ⟨pushed, list, run⟩ := step_push stands room
  exact ⟨_, run, list⟩

end Exec

/-- A word that is read from call data at once is the one that is read from memory after it was
copied there, and the operand that an instruction pushes spells the bytes that are copied from
behind it. Where bytes are missing, however far beyond the end, both are filled up with zeros; that
offsets are cut to 64 bits makes no difference. -/
theorem padded_readers_agree (setting : Setting) :
    (∀ (input : Bytes) (offset : Word), input.length < UInt64.size → ∃ word : Word,
      word.toBytes = input.padded offset.toNat 32 ∧
      (∀ {loading : Machine} {rest : List Word},
        loading.Faces setting .calldataload (offset :: rest) →
        loading.frame.context.input = input → loading.Leaves setting (word :: rest)) ∧
      ∀ {copying : Machine} {target : Word} {rest : List Word},
        copying.Faces setting .calldatacopy (target :: offset :: 32#256 :: rest) →
        copying.frame.context.input = input →
          (∃ halted, Exec.step setting copying = .error .outOfGas halted) ∨
          ∃ copied, Exec.step setting copying = .ok .next copied ∧
            ∀ {reading : Machine} {below : List Word},
              reading.Faces setting .mload (target :: below) →
              reading.frame.memory = copied.frame.memory →
                reading.Leaves setting (word :: below)) ∧
    ∀ (code : Code) (position : Nat) (size : Fin 33), code.size < UInt64.size → ∃ word : Word,
      word.toNat = (Bytes.padded code.bytes.toList (position + 1) size).ofBigEndian ∧
      (∀ {pushing : Machine} {rest : List Word},
        pushing.Faces setting (.push size) rest → rest.length < stackLimit →
        pushing.frame.code = code → pushing.frame.position = position →
          pushing.Leaves setting (word :: rest)) ∧
      ∀ {copying : Machine} {target source : Word} {rest : List Word},
        copying.Faces setting .codecopy (target :: source :: Word.ofNat size :: rest) →
        copying.frame.code = code → source.toNat = position + 1 →
          (∃ halted, Exec.step setting copying = .error .outOfGas halted) ∨
          ∃ copied written, Exec.step setting copying = .ok .next copied ∧
            copied.frame.memory.slice? target.toNat size = some written ∧
            written.ofBigEndian = word.toNat := by
  constructor
  · intro input offset fits
    have read : Exec.inputAt input offset.saturated = input.padded offset.toNat 32 := by
      rw [Exec.inputAt_eq_padded, Bytes.padded_saturated fits]
    refine ⟨Word.ofBytes (input.padded offset.toNat 32), ?_, ?_, ?_⟩
    · exact Word.toBytes_ofBytes (Bytes.length_padded _ _ _)
    · rintro loading rest faces rfl
      rw [← read]
      exact Exec.leaves_calldataload faces
    · rintro copying target rest faces rfl
      rcases Exec.step_copy_cases copying.frame.context.input faces fun _ => rfl with
        halts | ⟨copied, run, written, near⟩
      · exact .inl halts
      · refine .inr ⟨copied, run, fun faces same => ?_⟩
        rw [← same, Memory.filled_eq_padded, Bytes.padded_saturated fits] at written
        exact Exec.leaves_mload faces (near rfl) written
  · intro code position size fits
    have spelled : (Word.ofBytes (code.operand (position + 1) size)).toNat =
        (Bytes.padded code.bytes.toList (position + 1) size).ofBigEndian := by
      rw [Code.ofBytes_operand, Word.toNat_ofBytes]
      rw [Bytes.length_padded]
      exact Nat.le_of_lt_succ size.isLt
    refine ⟨_, spelled, ?_, ?_⟩
    · rintro pushing rest faces room rfl rfl
      exact Exec.leaves_push faces room
    · rintro copying target source rest faces rfl next
      have whole : (Word.ofNat size).toNat = size := by
        rw [Word.ofNat, BitVec.toNat_ofNat]
        exact Nat.mod_eq_of_lt (Nat.lt_of_lt_of_le size.isLt (by decide))
      have fits : copying.frame.code.bytes.toList.length < UInt64.size := by
        rwa [Array.length_toList]
      rcases Exec.step_copy_cases copying.frame.code.bytes.toList faces fun _ => rfl with
        halts | ⟨copied, run, written, -⟩
      · exact .inl halts
      · rw [whole, Memory.filled_eq_padded, Bytes.padded_saturated fits, next] at written
        exact .inr ⟨copied, _, run, written, spelled.symm⟩

def readingSetting : Setting := ⟨{}, Mainnet.rules .london, ⟨0x10#160⟩, 10#256⟩

def readingMachine (code : Bytes) (stack : Stack) (memory : Memory) : Machine where
  frame := { Frame.start ⟨⟨0x20#160⟩, ⟨0x10#160⟩, ⟨0x20#160⟩, 0#256, [1, 2, 3], false, 0⟩ code
    100 with stack, memory }
  journal := Journal.start {}

theorem faces_readingMachine {byte : UInt8} {opcode : Opcode} {items : List Word}
    (named : Opcode.ofByte? byte = some opcode)
    (priced : readingSetting.rules.opcodeGas byte = some 3) (rest : Bytes) (stack : Stack)
    (memory : Memory) (holds : stack.toList = items) :
    (readingMachine (byte :: rest) stack memory).Faces readingSetting opcode items := by
  have enough : 3 ≤ 100 := by decide
  exact ⟨⟨byte, 3, rfl, priced, named, enough⟩, holds⟩

theorem padded_readers_agree_pastEnd : ∃ word pushed : Word,
    word = 3#256 <<< 248 ∧ pushed = 0x700#256 ∧
    (readingMachine [0x35] ⟨#[2#256], by decide⟩ .empty).Leaves readingSetting [word] ∧
    (∃ copied,
      Exec.step readingSetting
        (readingMachine [0x37] ⟨#[32#256, 2#256, 64#256], by decide⟩ .empty) = .ok .next copied ∧
      (readingMachine [0x51] ⟨#[64#256], by decide⟩ copied.frame.memory).Leaves readingSetting
        [word]) ∧
    (readingMachine [0x61, 7] .empty .empty).Leaves readingSetting [pushed] := by
  have priced (byte : UInt8) (among : byte ∈ [0x35, 0x37, 0x51, 0x61]) :
      readingSetting.rules.opcodeGas byte = some 3 := by
    simp only [readingSetting, Mainnet.rules_eq_readOff]
    revert byte
    decide +kernel
  have runs : (match Exec.step readingSetting
        (readingMachine [0x37] ⟨#[32#256, 2#256, 64#256], by decide⟩ .empty) with
      | .ok .next _ => true
      | _ => false) = true := by
    simp only [readingSetting, Mainnet.rules_eq_readOff]
    decide +kernel
  obtain ⟨words, operands⟩ := padded_readers_agree readingSetting
  obtain ⟨word, bytes, loads, copies⟩ := words [1, 2, 3] 2#256 (by decide)
  obtain ⟨pushed, spelled, pushes, -⟩ := operands (Code.ofBytes [0x61, 7]) 0 2 (by decide)
  have last : word = 3#256 <<< 248 := by
    rw [← Word.ofBytes_toBytes word, bytes]
    decide +kernel
  have half : pushed = 0x700#256 := by
    apply BitVec.eq_of_toNat_eq
    rw [spelled]
    decide +kernel
  have loading := faces_readingMachine rfl (priced 0x35 (by decide)) [] ⟨#[2#256], by decide⟩
    .empty rfl
  have copying := faces_readingMachine rfl (priced 0x37 (by decide)) []
    ⟨#[32#256, 2#256, 64#256], by decide⟩ .empty rfl
  have pushing := faces_readingMachine rfl (priced 0x61 (by decide)) [7] .empty .empty rfl
  refine ⟨word, pushed, last, half, loads loading rfl, ?_, pushes pushing (by decide) rfl rfl⟩
  rcases copies copying rfl with ⟨halted, halts⟩ | ⟨copied, run, reads⟩
  · rw [halts] at runs
    cases runs
  · have reading := faces_readingMachine rfl (priced 0x51 (by decide)) [] ⟨#[64#256], by decide⟩
      copied.frame.memory rfl
    exact ⟨copied, run, reads reading rfl⟩

end Evm

end StateTransition
