import StateTransition.Proofs.Code.Boundaries
import StateTransition.Proofs.Fork.Mainnet
import StateTransition.Proofs.Instruction.Moves
import StateTransition.Proofs.Instruction.Operands
import StateTransition.Proofs.Instruction.Requests

/-!
Where frames fetch their instructions. A frame that starts at the beginning of its code and goes on
as its instructions say is always at a boundary, whatever the journal holds and whatever its
children hand back; and the jumps it takes lead to the marked boundaries and nowhere else.
-/

namespace StateTransition.Evm

namespace Opcode

theorem operandSize_of_plain? {byte : UInt8} {opcode : Opcode} (named : plain? byte = some opcode) :
    opcode.operandSize = 0 := by
  unfold plain? at named
  split at named <;> cases named <;> rfl

theorem operandSize_of_ofByte? {byte : UInt8} {opcode : Opcode}
    (named : ofByte? byte = some opcode) :
    opcode.operandSize = Code.operandSize byte := by
  simp only [ofByte?] at named
  rw [Code.operandSize]
  split at named
  · cases named
    simp only [operandSize]
    split <;> omega
  · rename_i outside
    have none : ¬ (0x60 ≤ byte.toNat ∧ byte.toNat ≤ 0x7f) := by omega
    rw [if_neg none]
    split at named
    · cases named
      rfl
    · split at named
      · cases named
        rfl
      · split at named
        · cases named
          rfl
        · exact operandSize_of_plain? named

theorem operandSize_of_straight {opcode : Opcode} (straight : opcode.redirects = false) :
    opcode.operandSize = 0 := by
  cases opcode with
  | push size => cases straight
  | _ => rfl

/-- The destination of the jump an instruction takes, by the items of the stack from the top on. -/
def takenJump? : Opcode → List Word → Option Word
  | jump, destination :: _ => some destination
  | jumpi, destination :: condition :: _ => if condition.isZero then none else some destination
  | _, _ => none

end Opcode

/-- The frame runs some code and is where an instruction of it begins. -/
structure Frame.StandsIn (bytes : Bytes) (frame : Frame) : Prop where
  code : frame.code = Code.ofBytes bytes
  boundary : Code.IsBoundary bytes frame.position

/-- The frames that run some code come up one after the other: from its beginning on by the
instructions, with any journal at each of them, and with any result of any child it waited for. -/
inductive Frame.Driven (setting : Setting) (bytes : Bytes) : Frame → Prop where
  | start (context : CallContext) (gas : Nat) : Driven setting bytes (Frame.start context bytes gas)
  | next {frame : Frame} {journal : Journal} {after : Machine} (driven : Driven setting bytes frame)
      (step : Exec.step setting ⟨frame, journal⟩ = .ok .next after) :
      Driven setting bytes after.frame
  | resumeCall {frame resumed : Frame} {journal : Journal} {after : Machine} {control : Control}
      (driven : Driven setting bytes frame)
      (step : Exec.step setting ⟨frame, journal⟩ = .ok control after)
      (asks : control.asks = true) {result : FrameResult} {offset size : Nat}
      (resumes : after.frame.resumeCall? result offset size = some resumed) :
      Driven setting bytes resumed
  | resumeCreate {frame : Frame} {journal : Journal} {after : Machine} {control : Control}
      (driven : Driven setting bytes frame)
      (step : Exec.step setting ⟨frame, journal⟩ = .ok control after)
      (asks : control.asks = true) (result : FrameResult) (address : Address) :
      Driven setting bytes (after.frame.resumeCreate result address)

namespace Frame

@[simp] theorem code_pushResult (frame : Frame) (word : Word) :
    (frame.pushResult word).code = frame.code := by
  rw [pushResult]
  split <;> rfl

@[simp] theorem position_pushResult (frame : Frame) (word : Word) :
    (frame.pushResult word).position = frame.position := by
  rw [pushResult]
  split <;> rfl

variable {bytes : Bytes} {frame resumed : Frame} {result : FrameResult}

theorem StandsIn.resumeCall {offset size : Nat} (stands : frame.StandsIn bytes)
    (resumes : frame.resumeCall? result offset size = some resumed) : resumed.StandsIn bytes := by
  obtain ⟨memory, stored, rfl⟩ := Option.map_eq_some_iff.mp resumes
  exact ⟨by simpa using stands.code, by simpa using stands.boundary⟩

theorem StandsIn.resumeCreate (stands : frame.StandsIn bytes) (result : FrameResult)
    (address : Address) : (frame.resumeCreate result address).StandsIn bytes :=
  ⟨by simpa [Frame.resumeCreate] using stands.code,
    by simpa [Frame.resumeCreate] using stands.boundary⟩

end Frame

namespace Exec

variable {setting : Setting} {bytes : Bytes} {machine : Machine}

theorem ensures_execute_position (opcode : Opcode) (machine : Machine) :
    Ensures (execute setting opcode) machine fun _ after =>
      after.frame.code = machine.frame.code ∧
        (after.frame.position = machine.frame.position + opcode.operandSize ∨
          machine.frame.code.isDestination after.frame.position = true) := by
  cases redirects : opcode.redirects with
  | true =>
    apply ensures_mono (ensures_execute_of_redirects redirects machine)
    intro _ after redirected
    obtain ⟨stack, position, rfl⟩ := redirected.same
    exact ⟨rfl, redirected.lands⟩
  | false =>
    apply ensures_mono (walks_execute redirects machine)
    intro _ after moves
    obtain ⟨code, position⟩ := moves.position_eq
    rw [Opcode.operandSize_of_straight redirects]
    exact ⟨code, .inl position⟩

theorem ensures_step_standsIn (stands : machine.frame.StandsIn bytes) :
    Ensures (step setting) machine fun _ after => after.frame.StandsIn bytes := by
  apply ensures_step_of_execute stands
  intro byte opcode price fetched
  apply ensures_mono (ensures_execute_position opcode _)
  intro _ after moved
  obtain ⟨code, position⟩ := moved
  have held : bytes[machine.frame.position]? = some byte := by
    simpa [stands.code, Code.ofBytes] using fetched.next
  refine ⟨code.trans stands.code, ?_⟩
  rcases position with behind | destination
  · rw [behind, Opcode.operandSize_of_ofByte? fetched.named]
    exact stands.boundary.next held
  · have marked : (Code.ofBytes bytes).isDestination after.frame.position = true := by
      rw [← stands.code]
      exact destination
    exact ((Code.isDestination_ofBytes_iff bytes _).mp marked).1

theorem step_of_standsAt {byte : UInt8} {opcode : Opcode} {price : Nat}
    (stands : machine.StandsAt setting.rules byte opcode price) :
    step setting machine = execute setting opcode (machine.begin price) := by
  simp only [step, bind, EStateM.bind, frame, stands.next, stands.priced, stands.named, useGas,
    if_neg (Nat.not_lt.mpr stands.enough), modifyFrame]
  rfl

theorem execute_of_takenJump {opcode : Opcode} {destination : Word}
    (taken : opcode.takenJump? machine.frame.stack.toList = some destination) :
    ∃ stack, execute setting opcode machine =
      proceed (jump destination) { machine with frame := { machine.frame with stack } } := by
  unfold Opcode.takenJump? at taken
  split at taken
  · rename_i top rest items
    cases taken
    obtain ⟨stack, -, popped⟩ := pop_of_items items
    refine ⟨stack, ?_⟩
    simp only [execute, proceed, bind, EStateM.bind, popped]
  · rename_i top condition rest items
    have items : machine.frame.stack.toList = [top, condition] ++ rest := items
    obtain ⟨words, stack, held, popped, -⟩ := popMany_operands 2 items rfl Nat.two_pos
    have first : top = words[0] := Option.some.inj (held 0)
    have second : condition = words[1] := Option.some.inj (held 1)
    split at taken
    · cases taken
    · rename_i holds
      cases taken
      refine ⟨stack, ?_⟩
      simp only [execute, proceed, bind, EStateM.bind, popped, ← first, ← second, holds,
        Bool.not_false, if_true]
  · cases taken

theorem proceed_jump (destination : Word) :
    proceed (jump destination) machine =
      if machine.frame.code.isDestination destination.toNat then
        .ok .next { machine with frame := { machine.frame with position := destination.toNat } }
      else .error (.invalidJump (min destination.toNat (UInt64.size - 1))) machine := by
  by_cases marked : machine.frame.code.isDestination destination.toNat = true
  · simp [proceed, bind, EStateM.bind, pure, EStateM.pure, jump, marked]
  · simp [proceed, bind, EStateM.bind, jump, marked, Word.saturated]

end Exec

namespace Frame

variable {setting : Setting} {bytes : Bytes} {frame : Frame}

theorem Driven.standsIn (driven : frame.Driven setting bytes) : frame.StandsIn bytes := by
  induction driven with
  | start context gas => exact ⟨rfl, .first⟩
  | next _ step ih => exact (Exec.ensures_step_standsIn ih).of_run step
  | resumeCall _ step _ resumes ih =>
    exact ((Exec.ensures_step_standsIn ih).of_run step).resumeCall resumes
  | resumeCreate _ step _ result address ih =>
    exact ((Exec.ensures_step_standsIn ih).of_run step).resumeCreate result address

theorem StandsIn.step_of_takenJump {journal : Journal} {byte : UInt8} {opcode : Opcode}
    {price : Nat} {destination : Word} (standsIn : frame.StandsIn bytes)
    (stands : Machine.StandsAt setting.rules ⟨frame, journal⟩ byte opcode price)
    (taken : opcode.takenJump? frame.stack.toList = some destination) : ∃ stack,
      (Code.IsJumpdest bytes destination.toNat → Exec.step setting ⟨frame, journal⟩ = .ok .next
        ⟨{ frame with gas := frame.gas - price, stack, position := destination.toNat }, journal⟩) ∧
      (¬ Code.IsJumpdest bytes destination.toNat → Exec.step setting ⟨frame, journal⟩ =
        .error (.invalidJump (min destination.toNat (UInt64.size - 1)))
          ⟨{ frame with gas := frame.gas - price, stack, position := frame.position + 1 },
            journal⟩) := by
  have begun : opcode.takenJump?
      (Machine.begin ⟨frame, journal⟩ price).frame.stack.toList = some destination := taken
  obtain ⟨stack, run⟩ := Exec.execute_of_takenJump begun
  refine ⟨stack, ?_⟩
  rw [Exec.step_of_standsAt stands, run, Exec.proceed_jump, ← Code.isDestination_ofBytes_iff,
    ← standsIn.code]
  constructor
  · intro marked
    exact if_pos marked
  · intro unmarked
    exact if_neg unmarked

/-- Exactly the boundaries that hold `0x5b` are marked as destinations. A frame fetches its
instructions at boundaries only, so never an operand byte, and a jump that is taken succeeds
exactly when its destination is such a boundary. That destinations are cut to 64 bits makes no
difference. -/
theorem fetches_at_boundaries (setting : Setting) (bytes : Bytes) :
    (∀ position, (Code.ofBytes bytes).isDestination position = true ↔
        Code.IsBoundary bytes position ∧ bytes[position]? = some 0x5b) ∧
      (∀ frame : Frame, frame.Driven setting bytes →
        frame.StandsIn bytes ∧ ¬ Code.IsOperand bytes frame.position) ∧
      (∀ (frame : Frame) (journal : Journal) (byte : UInt8) (opcode : Opcode) (price : Nat)
          (destination : Word), frame.Driven setting bytes →
        Machine.StandsAt setting.rules ⟨frame, journal⟩ byte opcode price →
        opcode.takenJump? frame.stack.toList = some destination → ∃ stack,
          (Code.IsJumpdest bytes destination.toNat → Exec.step setting ⟨frame, journal⟩ = .ok .next
            ⟨{ frame with gas := frame.gas - price, stack, position := destination.toNat },
              journal⟩) ∧
          (¬ Code.IsJumpdest bytes destination.toNat → Exec.step setting ⟨frame, journal⟩ =
            .error (.invalidJump (min destination.toNat (UInt64.size - 1)))
              ⟨{ frame with gas := frame.gas - price, stack, position := frame.position + 1 },
                journal⟩)) ∧
      (bytes.length < UInt64.size → ∀ position,
        (Code.ofBytes bytes).isDestination (min position (UInt64.size - 1)) =
          (Code.ofBytes bytes).isDestination position) := by
  refine ⟨Code.isDestination_ofBytes_iff bytes, ?_, ?_, ?_⟩
  · intro frame driven
    exact ⟨driven.standsIn, driven.standsIn.boundary.not_isOperand⟩
  · intro frame journal byte opcode price destination driven stands taken
    exact driven.standsIn.step_of_takenJump stands taken
  · intro fits position
    rw [Bool.eq_iff_iff, Code.isDestination_ofBytes_iff, Code.isDestination_ofBytes_iff]
    exact Code.isJumpdest_saturated_iff fits position

def jumpOverOperand : Bytes := [0x60, 0x05, 0x56, 0x60, 0x5b, 0x5b, 0x00]

def jumpingSetting : Setting := ⟨{}, Mainnet.rules .london, ⟨0x10#160⟩, 10#256⟩

theorem fetches_at_boundaries_jumpOverOperand : ∃ (frame : Frame) (stack : Stack),
    frame.Driven jumpingSetting jumpOverOperand ∧
      Exec.step jumpingSetting ⟨frame, Journal.start {}⟩ = .ok .next
        ⟨{ frame with gas := 89, stack, position := 5 }, Journal.start {}⟩ := by
  let first := Frame.start ⟨⟨0x20#160⟩, ⟨0x10#160⟩, ⟨0x20#160⟩, 0#256, [], false, 0⟩
    jumpOverOperand 100
  have pushPrice : jumpingSetting.rules.opcodeGas 0x60 = some 3 := by
    rw [jumpingSetting, Mainnet.rules_eq_readOff]
    decide +kernel
  have jumpPrice : jumpingSetting.rules.opcodeGas 0x56 = some 8 := by
    rw [jumpingSetting, Mainnet.rules_eq_readOff]
    decide +kernel
  have pushes : Machine.StandsAt jumpingSetting.rules ⟨first, Journal.start {}⟩ 0x60 (.push 1) 3 :=
    ⟨rfl, pushPrice, rfl, by decide⟩
  let second : Frame := { first with gas := 97, stack := ⟨#[5#256], by decide⟩, position := 2 }
  have pushed : Exec.step jumpingSetting ⟨first, Journal.start {}⟩ =
      .ok .next ⟨second, Journal.start {}⟩ := Exec.step_of_standsAt pushes
  have driven : second.Driven jumpingSetting jumpOverOperand := (Driven.start _ _).next pushed
  have jumps : Machine.StandsAt jumpingSetting.rules ⟨second, Journal.start {}⟩ 0x56 .jump 8 :=
    ⟨rfl, jumpPrice, rfl, by decide⟩
  obtain ⟨marked, -, taken, -⟩ := fetches_at_boundaries jumpingSetting jumpOverOperand
  obtain ⟨stack, succeeds, -⟩ := taken second (Journal.start {}) 0x56 .jump 8 5#256 driven jumps rfl
  exact ⟨second, stack, driven, succeeds ((marked 5).mp (by decide))⟩

end Frame

end StateTransition.Evm
