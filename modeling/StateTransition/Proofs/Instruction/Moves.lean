import StateTransition.Proofs.Instruction.Outcomes

/-!
What a frame goes through in an instruction that ends well. Memory grows only by accesses that are
paid for, and the position moves only where the instruction redirects the frame; all else is work
that leaves code, position and the size of memory as they are.
-/

namespace StateTransition.Evm

/-- Code, position and the size of memory stay, and no gas comes in. -/
structure Works (before after : Machine) : Prop where
  code : after.frame.code = before.frame.code
  position : after.frame.position = before.frame.position
  words : after.frame.memory.words = before.frame.memory.words
  gas : after.frame.gas ≤ before.frame.gas

/-- The frame once it has paid for memory up to a number of words. -/
def Frame.grow (rules : Rules) (frame : Frame) (needed : Nat) : Frame :=
  { frame with
    gas := frame.gas - Gas.memoryGrowth rules frame.memory.words needed
    memory := frame.memory.resizeWords needed }

inductive Move (rules : Rules) (machine : Machine) : Machine → Prop where
  | work {after : Machine} (works : Works machine after) : Move rules machine after
  | access {offset size : Word} {range : Nat × Nat} {after : Machine}
      (run : Exec.memoryRange rules offset size machine = .ok range after) :
      Move rules machine after

abbrev Moves (rules : Rules) : Machine → Machine → Prop := Relation.ReflTransGen (Move rules)

namespace Exec

variable {α β : Type} {rules : Rules} {setting : Setting}

def Walks (rules : Rules) (action : Exec α) : Prop :=
  ∀ machine, Ensures action machine fun _ after => Moves rules machine after

theorem walks_bind {action : Exec α} {next : α → Exec β} (first : Walks rules action)
    (second : ∀ answer, Walks rules (next answer)) : Walks rules (action >>= next) := by
  intro machine
  refine ensures_bind (ensures_mono (first machine) fun answer middle reached => ?_)
  exact ensures_mono (second answer middle) fun _ after further => reached.trans further

theorem walks_of_works {action : Exec α}
    (works : ∀ machine, Ensures action machine fun _ after => Works machine after) :
    Walks rules action :=
  fun machine => ensures_mono (works machine) fun _ _ works => .single (.work works)

theorem walks_onStack (action : StackAction α) : Walks rules (onStack action) :=
  walks_of_works fun _ => ensures_onStack fun _ _ _ => ⟨rfl, rfl, rfl, Nat.le_refl _⟩

theorem walks_read {action : Exec α}
    (reads : ∀ machine, Ensures action machine fun _ after => after = machine) :
    Walks rules action :=
  fun machine => ensures_mono (reads machine) fun _ _ same => same ▸ .refl

theorem walks_useGas (amount : Nat) : Walks rules (useGas amount) := by
  apply walks_of_works
  intro machine
  rw [Ensures, useGas]
  by_cases short : machine.frame.gas < amount
  · simp [short]
  · rw [if_neg short]
    exact ⟨rfl, rfl, rfl, Nat.sub_le _ _⟩

theorem walks_writeBytes (offset : Nat) (data : Bytes) : Walks rules (writeBytes offset data) := by
  apply walks_of_works
  intro machine
  rw [Ensures, writeBytes]
  by_cases covered : machine.frame.memory.covers offset data.length
  · rw [if_pos covered]
    refine ⟨rfl, rfl, ?_, Nat.le_refl _⟩
    simp only [Memory.words, Memory.write, Memory.size_overwrite]
  · simp [covered]

theorem walks_memoryRange (offset size : Word) : Walks rules (memoryRange rules offset size) := by
  intro machine
  rw [Ensures]
  cases run : memoryRange rules offset size machine with
  | ok range after => exact .single (.access run)
  | error reason after => trivial

theorem memoryRange_of_isZero {offset size : Word} (empty : size.isZero = true)
    (machine : Machine) :
    memoryRange rules offset size machine = .ok (0, 0) machine := by
  rw [memoryRange, if_pos empty]
  rfl

theorem memoryRange_eq {offset size : Word} (some : size.isZero = false) (machine : Machine) :
    memoryRange rules offset size machine =
      if (offset.toNat ≤ memoryLimit ∧ size.toNat ≤ memoryLimit) ∧
          Gas.memoryGrowth rules machine.frame.memory.words
            (wordCount (offset.toNat + size.toNat)) ≤ machine.frame.gas then
        .ok (offset.toNat, size.toNat) { machine with
          frame := machine.frame.grow rules (wordCount (offset.toNat + size.toNat)) }
      else .error .outOfGas machine := by
  have limits : (decide (offset.toNat ≤ memoryLimit) && decide (size.toNat ≤ memoryLimit)) =
      decide (offset.toNat ≤ memoryLimit ∧ size.toNat ≤ memoryLimit) := by simp
  rw [memoryRange, if_neg (by simp [some]), limits]
  by_cases inside : offset.toNat ≤ memoryLimit ∧ size.toNat ≤ memoryLimit
  · by_cases paid : Gas.memoryGrowth rules machine.frame.memory.words
        (wordCount (offset.toNat + size.toNat)) ≤ machine.frame.gas
    · rw [if_pos ⟨inside, paid⟩]
      simp [bind, EStateM.bind, pure, EStateM.pure, require, inside, frame, useGas,
        Nat.not_lt.mpr paid, modifyFrame, Frame.grow]
    · rw [if_neg fun both => paid both.2]
      simp [bind, EStateM.bind, require, inside, frame, useGas, Nat.lt_of_not_le paid]
  · rw [if_neg fun both => inside both.1]
    simp [bind, EStateM.bind, require, inside]

/-- By induction on how an action is put together: without a redirection it walks. -/
theorem Composed.walks {powers : Powers} {action : Exec α}
    (composed : Composed rules powers action) (straight : powers.redirects = false) :
    Walks rules action := by
  induction composed with
  | pure answer => exact fun _ => .refl
  | throw _ => exact fun _ => trivial
  | bind _ _ first rest => exact walks_bind first rest
  | readJournal _ _ rest => exact fun machine => rest machine.journal machine
  | frame | context | gas => exact walks_read fun _ => rfl
  | require condition _ =>
    exact walks_read fun _ => ensures_mono (ensures_require condition _) fun _ _ same => same.1
  | loadWord offset _ => exact walks_read fun _ => ensures_loadWord offset
  | readBytes offset size _ => exact walks_read fun _ => ensures_readBytes offset size
  | push | pop | popMany | popEach | dup | swap => exact walks_onStack _
  | useGas amount => exact walks_useGas amount
  | memoryRange offset size => exact walks_memoryRange offset size
  | writeBytes offset data _ => exact walks_writeBytes offset data
  | skip _ allowed | jump _ allowed => exact absurd (straight.symm.trans allowed) (by decide)
  | forget | warmAccount | warmSlot | store | storeTransient | emit | close =>
    exact walks_of_works fun _ => ⟨rfl, rfl, rfl, Nat.le_refl _⟩

theorem walks_execute {opcode : Opcode} (straight : opcode.redirects = false) :
    Walks setting.rules (execute setting opcode) :=
  (Composed.execute opcode).walks straight

theorem ensures_pushOperand (size : Nat) {machine : Machine} :
    Ensures (pushOperand size) machine fun _ after => ∃ stack : Stack,
      after = { machine with frame :=
        { machine.frame with stack, position := machine.frame.position + size } } := by
  refine ensures_bind (ensures_frame (ensures_bind (ensures_onStack fun _ stack _ => ?_)))
  exact ensures_modifyFrame ⟨stack, rfl⟩

theorem ensures_jump (destination : Word) {machine : Machine} :
    Ensures (jump destination) machine fun _ after =>
      machine.frame.code.isDestination destination.toNat = true ∧
        after = { machine with frame :=
          { machine.frame with position := destination.toNat } } := by
  rw [Ensures, jump]
  by_cases known : machine.frame.code.isDestination destination.toNat
  · rw [if_pos known]
    exact ⟨known, rfl⟩
  · rw [if_neg known]
    trivial

structure Redirected (opcode : Opcode) (before after : Machine) : Prop where
  same : ∃ (stack : Stack) (position : Nat),
    after = { before with frame := { before.frame with stack, position } }
  lands : after.frame.position = before.frame.position + opcode.operandSize ∨
    before.frame.code.isDestination after.frame.position = true

theorem ensures_execute_of_redirects {opcode : Opcode} (redirects : opcode.redirects = true)
    (machine : Machine) :
    Ensures (execute setting opcode) machine fun _ after => Redirected opcode machine after := by
  cases opcode with
  | push size =>
    refine ensures_bind (ensures_mono (ensures_pushOperand size.val) ?_)
    rintro _ _ ⟨stack, rfl⟩
    exact ensures_pure ⟨⟨stack, _, rfl⟩, .inl rfl⟩
  | jump =>
    refine ensures_bind (ensures_bind (ensures_onStack fun destination stack _ => ?_))
    apply ensures_mono (ensures_jump destination)
    rintro _ _ ⟨known, rfl⟩
    exact ensures_pure ⟨⟨stack, _, rfl⟩, .inr known⟩
  | jumpi =>
    refine ensures_bind (ensures_bind (ensures_onStack fun operands stack _ => ?_))
    split
    · apply ensures_mono (ensures_jump operands[0])
      rintro _ _ ⟨known, rfl⟩
      exact ensures_pure ⟨⟨stack, _, rfl⟩, .inr known⟩
    · exact ensures_pure (ensures_pure ⟨⟨stack, _, rfl⟩, .inl rfl⟩)
  | _ => cases redirects

end Exec

theorem Move.position_eq {rules : Rules} {before after : Machine} (move : Move rules before after) :
    after.frame.code = before.frame.code ∧ after.frame.position = before.frame.position := by
  cases move with
  | work works => exact ⟨works.code, works.position⟩
  | @access offset size range _ run =>
    cases empty : size.isZero with
    | true =>
      rw [Exec.memoryRange_of_isZero empty] at run
      cases run
      exact ⟨rfl, rfl⟩
    | false =>
      rw [Exec.memoryRange_eq empty] at run
      split at run
      · cases run
        exact ⟨rfl, rfl⟩
      · cases run

theorem Moves.position_eq {rules : Rules} {before after : Machine}
    (moves : Moves rules before after) :
    after.frame.code = before.frame.code ∧ after.frame.position = before.frame.position := by
  induction moves with
  | refl => exact ⟨rfl, rfl⟩
  | tail _ move ih => exact ⟨move.position_eq.1.trans ih.1, move.position_eq.2.trans ih.2⟩

end StateTransition.Evm
