import StateTransition.Proofs.Bytes
import StateTransition.Proofs.Instruction.Requests

namespace StateTransition.Evm

theorem Memory.length_filled (source : Bytes) (start size : Nat) :
    (filled source start size).length = size := by
  simp only [filled, Bytes.slice, List.length_append, Bytes.length_zeros, List.length_take,
    List.length_drop]
  omega

def Powers.blind : Powers := ⟨true, true, true, false⟩

namespace Exec

variable {α β : Type} {machine : Machine} {rules : Rules} {setting : Setting} {offset size : Nat}

theorem neverFaults_of_delivers {action : Exec α}
    (delivers : ∀ machine, Delivers action machine fun _ _ => True) : NeverFaults action :=
  fun machine => (delivers machine).1

theorem delivers_blind (rules : Rules) {action : Exec α} (composed : Composed rules .blind action) :
    Delivers action machine fun _ _ => True :=
  ⟨composed.neverFaults rfl machine, ensures_of_forall fun _ _ => trivial⟩

theorem delivers_writeBytes {data : Bytes} (covered : machine.frame.memory.covers offset size)
    (fits : data.length ≤ size) : Delivers (writeBytes offset data) machine fun _ _ => True := by
  rw [Delivers, Faultless, Ensures, writeBytes, if_pos (Memory.covers_mono covered fits)]
  refine ⟨?_, trivial⟩
  intro _ halts
  cases halts

theorem delivers_paid (rules : Rules) {start length : Word} {price : Nat × Nat → Nat}
    {next : Nat × Nat → Exec β} {post : β → Machine → Prop}
    (rest : ∀ range paid, range.2 = length.toNat → paid.frame.memory.covers range.1 range.2 →
      Delivers (next range) paid post) :
    Delivers (memoryRange rules start length >>= fun range =>
      useGas (price range) >>= fun _ => next range) machine post := by
  apply delivers_next rules (.memoryRange _ _) (.refl machine) (ensures_memoryRange _ _)
  intro range grown ⟨same, covered⟩ _ _
  apply delivers_skip rules (.useGas _) (.refl grown)
  intro _ paid paying
  exact rest range paid same (paying.covers covered)

theorem neverFaults_hash (rules : Rules) : NeverFaults (hash rules) := by
  apply neverFaults_of_delivers
  intro machine
  apply delivers_skip rules (.popMany 2) (.refl machine)
  intro operands popped _
  refine delivers_paid rules fun range paid _ covered => ?_
  refine delivers_readBytes covered fun bytes _ => ?_
  exact delivers_blind rules (.push _ rfl)

theorem neverFaults_copyToMemory (rules : Rules) (source : Bytes) :
    NeverFaults (copyToMemory rules source) := by
  apply neverFaults_of_delivers
  intro machine
  apply delivers_skip rules .popThree (.refl machine)
  intro operands popped _
  refine delivers_paid rules fun range paid _ covered => ?_
  exact delivers_writeBytes covered (Nat.le_of_eq (Memory.length_filled _ _ _))

theorem neverFaults_copyExternalCode (rules : Rules) : NeverFaults (copyExternalCode rules) := by
  apply neverFaults_of_delivers
  intro machine
  apply delivers_skip rules .popAddress (.refl machine)
  intro address _ _
  apply delivers_skip rules .popThree (.refl _)
  intro operands _ _
  apply delivers_skip rules (.accessAccount address) (.refl _)
  intro _ accessed _
  refine delivers_paid rules fun range paid _ covered => ?_
  apply delivers_journal
  exact delivers_writeBytes covered (Nat.le_of_eq (Memory.length_filled _ _ _))

theorem neverFaults_copyReturnData (rules : Rules) : NeverFaults (copyReturnData rules) := by
  apply neverFaults_of_delivers
  intro machine
  apply delivers_skip rules .popThree (.refl machine)
  intro operands _ _
  apply delivers_skip rules .frame (.refl _)
  intro current _ _
  apply delivers_skip rules (.require _ (by decide)) (.refl _)
  intro _ checked _
  refine delivers_paid rules fun range paid _ covered => ?_
  exact delivers_writeBytes covered (List.length_take_le _ _)

theorem neverFaults_copyMemory (rules : Rules) : NeverFaults (copyMemory rules) := by
  apply neverFaults_of_delivers
  intro machine
  apply delivers_skip rules .popThree (.refl machine)
  intro operands popped _
  apply delivers_next rules (.memoryRange _ _) (.refl popped) (ensures_memoryRange _ _)
  intro target grown ⟨targetSize, targetCovered⟩ _ _
  apply delivers_next rules (.memoryRange _ _) (.refl grown) (ensures_memoryRange _ _)
  intro source wide ⟨sourceSize, sourceCovered⟩ _ widens
  apply delivers_skip rules (.useGas _) (.refl wide)
  intro _ paid paying
  have sourceCovered := paying.covers sourceCovered
  rw [sourceSize, ← targetSize] at sourceCovered
  refine delivers_readBytes sourceCovered fun bytes fits => ?_
  exact delivers_writeBytes (paying.covers (widens.covers targetCovered)) fits

theorem neverFaults_memoryOutput (rules : Rules) : NeverFaults (memoryOutput rules) := by
  apply neverFaults_of_delivers
  intro machine
  apply delivers_skip rules (.popMany 2) (.refl machine)
  intro operands popped _
  apply delivers_next rules (.memoryRange _ _) (.refl popped) (ensures_memoryRange _ _)
  intro range grown ⟨_, covered⟩ _ _
  change Delivers (readBytes range.1 range.2) grown fun _ _ => True
  rw [← bind_pure (readBytes range.1 range.2)]
  exact delivers_readBytes covered fun bytes _ => delivers_pure trivial

theorem neverFaults_emitLog (rules : Rules) (topicCount : Nat) :
    NeverFaults (emitLog rules topicCount) := by
  apply neverFaults_of_delivers
  intro machine
  apply delivers_skip rules .requireNonStatic (.refl machine)
  intro _ _ _
  apply delivers_skip rules (.popMany 2) (.refl _)
  intro operands _ _
  apply delivers_skip rules (.popEach topicCount) (.refl _)
  intro topics popped _
  refine delivers_paid rules fun range paid _ covered => ?_
  refine delivers_readBytes covered fun bytes _ => ?_
  exact delivers_blind rules (.bind .context fun _ => .emit _ rfl)

theorem neverFaults_loadAt (rules : Rules) (offset : Word) : NeverFaults (do
    let (offset, _) ← memoryRange rules offset 32#256
    push (← loadWord offset)) := by
  apply neverFaults_of_delivers
  intro machine
  apply delivers_next rules (.memoryRange _ _) (.refl machine) (ensures_memoryRange _ _)
  intro range grown ⟨size, covered⟩ _ _
  rw [size] at covered
  have covered : grown.frame.memory.covers range.1 32 = true := covered
  have loaded : Faultless (loadWord range.1) grown := by
    intro after fault
    simp [loadWord, Memory.load?, Memory.slice?, covered] at fault
  refine delivers_bind ⟨loaded, ensures_of_forall fun word after => ?_⟩
  exact delivers_blind rules (.push word rfl)

theorem neverFaults_storeAt (rules : Rules) (offset size : Word) {data : Bytes}
    (fits : data.length ≤ size.toNat) : NeverFaults (do
    let (offset, _) ← memoryRange rules offset size
    writeBytes offset data) := by
  apply neverFaults_of_delivers
  intro machine
  apply delivers_next rules (.memoryRange _ _) (.refl machine) (ensures_memoryRange _ _)
  intro range grown ⟨same, covered⟩ _ _
  rw [same] at covered
  exact delivers_writeBytes covered fits

theorem neverFaults_call (setting : Setting) (scheme : CallScheme) :
    NeverFaults (call setting scheme) := fun _ => (delivers_call setting scheme).1

theorem neverFaults_create (setting : Setting) (salted : Bool) :
    NeverFaults (create setting salted) := fun _ => (delivers_create setting salted).1

theorem neverFaults_pure (answer : α) : NeverFaults (pure answer : Exec α) :=
  neverFaults_ok fun _ => ⟨_, _, rfl⟩

theorem neverFaults_proceed {action : Exec Unit} (never : NeverFaults action) :
    NeverFaults (proceed action) :=
  neverFaults_bind never fun _ => neverFaults_pure _

theorem neverFaults_execute (opcode : Opcode) : NeverFaults (execute setting opcode) := by
  have frugal {α : Type} {action : Exec α} (composed : Composed setting.rules .frugal action) :
      NeverFaults action := composed.neverFaults rfl
  cases opcode with
  | keccak256 => exact neverFaults_proceed (neverFaults_hash _)
  | calldatacopy =>
    refine neverFaults_proceed (neverFaults_bind (frugal .context) fun context => ?_)
    exact neverFaults_copyToMemory _ _
  | codecopy =>
    refine neverFaults_proceed (neverFaults_bind (frugal .frame) fun frame => ?_)
    exact neverFaults_copyToMemory _ _
  | extcodecopy => exact neverFaults_proceed (neverFaults_copyExternalCode _)
  | returndatacopy => exact neverFaults_proceed (neverFaults_copyReturnData _)
  | mload => exact neverFaults_proceed (neverFaults_bind (frugal .pop) fun _ => neverFaults_loadAt _ _)
  | mstore =>
    refine neverFaults_proceed (neverFaults_bind (frugal (.popMany 2)) fun operands => ?_)
    exact neverFaults_storeAt _ _ _ (Nat.le_of_eq (Word.length_toBytes _))
  | mstore8 =>
    refine neverFaults_proceed (neverFaults_bind (frugal (.popMany 2)) fun operands => ?_)
    exact neverFaults_storeAt _ _ _ (Nat.le_refl 1)
  | mcopy => exact neverFaults_proceed (neverFaults_copyMemory _)
  | log topics => exact neverFaults_proceed (neverFaults_emitLog _ _)
  | create => exact neverFaults_create setting false
  | create2 => exact neverFaults_create setting true
  | call => exact neverFaults_call setting .call
  | callcode => exact neverFaults_call setting .callCode
  | delegatecall => exact neverFaults_call setting .delegateCall
  | staticcall => exact neverFaults_call setting .staticCall
  | ret | revert =>
    exact neverFaults_bind (neverFaults_memoryOutput _) fun _ => neverFaults_pure _
  | _ => exact (Composed.execute _).neverFaults rfl

theorem neverFaults_step (setting : Setting) : NeverFaults (step setting) := by
  intro machine
  refine faultless_bind (neverFaults_ok (fun _ => ⟨_, _, rfl⟩) machine) (ensures_frame ?_)
  cases machine.frame.code.bytes[machine.frame.position]? with
  | none => exact neverFaults_pure _ machine
  | some byte =>
    simp only
    cases setting.rules.opcodeGas byte with
    | none => exact fun _ => nofun
    | some price =>
      cases Opcode.ofByte? byte with
      | none => exact fun _ => nofun
      | some opcode =>
        apply neverFaults_bind (neverFaults_useGas price)
        intro _
        exact neverFaults_bind (neverFaults_ok fun _ => ⟨_, _, rfl⟩) fun _ =>
          neverFaults_execute opcode

end Exec

end StateTransition.Evm
