import Mathlib.Algebra.Ring.Nat
import StateTransition.Proofs.Fork.Mainnet
import StateTransition.Proofs.Instruction.Moves
import StateTransition.Proofs.Instruction.Requests

/-!
What it costs a frame to use memory. While gas and memory together are worth less than `2 ^ 45`, an
access is paid by the exact quadratic price of the words it needs, whatever limits and 64-bit
numbers stand in between; and what a frame pays over a sequence of accesses telescopes to the price
of the memory it ends with.
-/

namespace StateTransition

namespace Mainnet

theorem amount_memoryWord (fork : Fork) : (rules fork).amount .memoryWord = 3 := by
  simp only [Rules.amount, value_rules]
  cases fork <;> decide

end Mainnet

namespace Evm

namespace Gas

def quadraticCost (words : Nat) : Nat := 3 * words + words * words / 512

/-- The price as it is computed in 64 bits, where no step goes beyond the largest number. -/
def saturatingMemoryCost (rules : Rules) (words : Nat) : Nat :=
  capGas (capGas (rules.amount .memoryWord * words) + capGas (words * words) / 512)

@[simp] theorem quadraticCost_zero : quadraticCost 0 = 0 := rfl

theorem quadraticCost_mono {fewer more : Nat} (le : fewer ≤ more) :
    quadraticCost fewer ≤ quadraticCost more := by
  have linear : 3 * fewer ≤ 3 * more := Nat.mul_le_mul_left 3 le
  have square : fewer * fewer / 512 ≤ more * more / 512 :=
    Nat.div_le_div_right (Nat.mul_le_mul le le)
  exact Nat.add_le_add linear square

variable (fork : Fork)

theorem memoryCost_mainnet (words : Nat) :
    memoryCost (Mainnet.rules fork) words = min (quadraticCost words) maxGas := by
  rw [memoryCost, Mainnet.amount_memoryWord, capGas, quadraticCost]

theorem saturatingMemoryCost_eq {words : Nat} (few : words < 2 ^ 32) :
    saturatingMemoryCost (Mainnet.rules fork) words = memoryCost (Mainnet.rules fork) words := by
  have square : words * words < 2 ^ 32 * 2 ^ 32 := Nat.mul_lt_mul'' few few
  simp only [saturatingMemoryCost, memoryCost, Mainnet.amount_memoryWord, capGas, maxGas,
    UInt64.size]
  omega

theorem quadraticCost_of_memoryCost_lt {words : Nat}
    (moderate : memoryCost (Mainnet.rules fork) words < 2 ^ 45) :
    memoryCost (Mainnet.rules fork) words = quadraticCost words ∧ words < 2 ^ 32 := by
  rw [memoryCost_mainnet, maxGas, UInt64.size] at moderate ⊢
  refine ⟨by omega, Nat.lt_of_not_le fun many => ?_⟩
  have least := quadraticCost_mono many
  have large : 2 ^ 45 ≤ quadraticCost (2 ^ 32) := by decide
  omega

theorem memoryCost_within {words : Nat} (few : words ≤ 2 ^ 28) :
    memoryCost (Mainnet.rules fork) words = quadraticCost words := by
  have most := quadraticCost_mono few
  have small : quadraticCost (2 ^ 28) < maxGas := by decide
  rw [memoryCost_mainnet]
  omega

theorem memoryGrowth_eq {current needed : Nat}
    (moderate : memoryCost (Mainnet.rules fork) current < 2 ^ 45) (few : needed ≤ 2 ^ 28) :
    memoryGrowth (Mainnet.rules fork) current needed =
      quadraticCost (max current needed) - quadraticCost current := by
  rw [memoryGrowth, (quadraticCost_of_memoryCost_lt fork moderate).1, memoryCost_within fork few]
  split
  · rename_i large
    rw [Nat.max_eq_left large, Nat.sub_self]
  · rename_i grows
    rw [Nat.max_eq_right (Nat.le_of_not_le grows)]

/-- What begins or ends beyond the limits needs more words than `2 ^ 45` gas pays for. -/
theorem quadraticCost_beyond {offset size : Nat}
    (beyond : ¬ (offset ≤ Exec.memoryLimit ∧ size ≤ Exec.memoryLimit)) :
    2 ^ 45 ≤ quadraticCost (wordCount (offset + size)) := by
  have many : 2 ^ 27 ≤ wordCount (offset + size) := by
    rw [Exec.memoryLimit, UInt32.size] at beyond
    rw [wordCount]
    omega
  calc
    2 ^ 45 ≤ quadraticCost (2 ^ 27) := by decide
    _ ≤ quadraticCost (wordCount (offset + size)) := quadraticCost_mono many

end Gas

namespace Memory

@[simp] theorem words_empty : empty.words = 0 := by decide

theorem words_of_storeSlice? {memory after : Memory} {offset : Nat} {data : Bytes}
    (stored : memory.storeSlice? offset data = some after) : after.words = memory.words := by
  rw [storeSlice?] at stored
  split at stored
  · cases stored
    simp only [words, write, size_overwrite]
  · cases stored

theorem words_resizeWords (memory : Memory) (count : Nat) :
    (memory.resizeWords count).words = max memory.words count := by
  have size := memory.size_resizeWords count
  rw [Memory.size, Memory.size] at size
  rw [words, words, size]
  omega

theorem toBytes_resizeWords (memory : Memory) (count : Nat) :
    (memory.resizeWords count).toBytes =
      memory.toBytes ++ Bytes.zeros (32 * (max memory.words count - memory.words)) := by
  have added : 32 * count - memory.bytes.size = 32 * (max memory.words count - memory.words) := by
    have := memory.aligned
    rw [words]
    omega
  simp [toBytes, resizeWords, Bytes.zeros, added]

end Memory

namespace Frame

@[simp] theorem memory_pushResult (frame : Frame) (word : Word) :
    (frame.pushResult word).memory = frame.memory := by
  rw [pushResult]
  split <;> rfl

theorem words_of_resumeCall? {frame resumed : Frame} {result : FrameResult} {offset size : Nat}
    (resumes : frame.resumeCall? result offset size = some resumed) :
    resumed.memory.words = frame.memory.words := by
  obtain ⟨memory, stored, rfl⟩ := Option.map_eq_some_iff.mp resumes
  rw [memory_pushResult]
  exact Memory.words_of_storeSlice? stored

theorem words_resumeCreate (frame : Frame) (result : FrameResult) (address : Address) :
    (frame.resumeCreate result address).memory.words = frame.memory.words := by
  rw [resumeCreate, memory_pushResult]

end Frame

namespace Exec

/-- Gas and memory are together worth less than `2 ^ 45`. -/
def Moderate (rules : Rules) (machine : Machine) : Prop :=
  Gas.memoryCost rules machine.frame.memory.words + machine.frame.gas < 2 ^ 45

/-- The words memory has once a range is in it. -/
def neededWords (machine : Machine) (offset size : Word) : Nat :=
  max machine.frame.memory.words ((offset.toNat + size.toNat + 31) / 32)

/-- The exact price of the words that are missing for a range. -/
def growthCost (machine : Machine) (offset size : Word) : Nat :=
  Gas.quadraticCost (neededWords machine offset size) -
    Gas.quadraticCost machine.frame.memory.words

variable {fork : Fork} {machine after : Machine} {offset size : Word}

theorem moderate_iff : Moderate (Mainnet.rules fork) machine ↔
    Gas.quadraticCost machine.frame.memory.words + machine.frame.gas < 2 ^ 45 := by
  constructor
  · intro moderate
    have below : Gas.memoryCost (Mainnet.rules fork) machine.frame.memory.words < 2 ^ 45 :=
      Nat.lt_of_le_of_lt (Nat.le_add_right _ _) moderate
    rw [Moderate, (Gas.quadraticCost_of_memoryCost_lt fork below).1] at moderate
    exact moderate
  · intro below
    rw [Moderate, Gas.memoryCost_mainnet]
    exact Nat.lt_of_le_of_lt (Nat.add_le_add_right (Nat.min_le_left _ _) _) below

theorem memoryGrowth_of_inside (moderate : Moderate (Mainnet.rules fork) machine)
    (inside : offset.toNat ≤ memoryLimit ∧ size.toNat ≤ memoryLimit) :
    Gas.memoryGrowth (Mainnet.rules fork) machine.frame.memory.words
      (wordCount (offset.toNat + size.toNat)) = growthCost machine offset size := by
  have below : Gas.memoryCost (Mainnet.rules fork) machine.frame.memory.words < 2 ^ 45 :=
    Nat.lt_of_le_of_lt (Nat.le_add_right _ _) moderate
  have few : wordCount (offset.toNat + size.toNat) ≤ 2 ^ 28 := by
    rw [memoryLimit, UInt32.size] at inside
    rw [wordCount]
    omega
  rw [Gas.memoryGrowth_eq fork below few]
  rfl

theorem inside_of_growthCost_le (moderate : Moderate (Mainnet.rules fork) machine)
    (paid : growthCost machine offset size ≤ machine.frame.gas) :
    offset.toNat ≤ memoryLimit ∧ size.toNat ≤ memoryLimit := by
  refine Decidable.of_not_not fun beyond => ?_
  have bound := moderate_iff.mp moderate
  have dear : 2 ^ 45 ≤ Gas.quadraticCost (neededWords machine offset size) := calc
    2 ^ 45 ≤ Gas.quadraticCost (wordCount (offset.toNat + size.toNat)) :=
      Gas.quadraticCost_beyond beyond
    _ ≤ Gas.quadraticCost (neededWords machine offset size) :=
      Gas.quadraticCost_mono (Nat.le_max_right _ _)
  rw [growthCost] at paid
  omega

theorem memoryRange_exact (moderate : Moderate (Mainnet.rules fork) machine)
    (some : size.isZero = false) :
    memoryRange (Mainnet.rules fork) offset size machine =
      if growthCost machine offset size ≤ machine.frame.gas then
        .ok (offset.toNat, size.toNat) { machine with frame := { machine.frame with
          gas := machine.frame.gas - growthCost machine offset size
          memory := machine.frame.memory.resizeWords (wordCount (offset.toNat + size.toNat)) } }
      else .error .outOfGas machine := by
  rw [memoryRange_eq some]
  by_cases paid : growthCost machine offset size ≤ machine.frame.gas
  · have inside := inside_of_growthCost_le moderate paid
    have price := memoryGrowth_of_inside moderate inside
    rw [if_pos paid, if_pos ⟨inside, Nat.le_trans (Nat.le_of_eq price) paid⟩, Frame.grow, price]
  · rw [if_neg paid, if_neg]
    rintro ⟨inside, enough⟩
    rw [memoryGrowth_of_inside moderate inside] at enough
    exact paid enough

theorem memoryRange_ok (moderate : Moderate (Mainnet.rules fork) machine)
    (some : size.isZero = false) (paid : growthCost machine offset size ≤ machine.frame.gas) :
    ∃ memory : Memory, memory.words = neededWords machine offset size ∧
      memory.toBytes = machine.frame.memory.toBytes ++
        Bytes.zeros (32 * (neededWords machine offset size - machine.frame.memory.words)) ∧
      memoryRange (Mainnet.rules fork) offset size machine = .ok (offset.toNat, size.toNat)
        { machine with frame := { machine.frame with
          gas := machine.frame.gas - growthCost machine offset size, memory } } := by
  refine ⟨machine.frame.memory.resizeWords (wordCount (offset.toNat + size.toNat)),
    Memory.words_resizeWords _ _, Memory.toBytes_resizeWords _ _, ?_⟩
  rw [memoryRange_exact moderate some, if_pos paid]

/-- What a frame pays for memory in a sequence of accesses that succeed. Between them it may do
anything that leaves the size of memory as it is, and get gas back. -/
inductive Accesses (rules : Rules) (start : Machine) : (charged : Nat) → Machine → Prop where
  | none : Accesses rules start 0 start
  | access {charged : Nat} {before after : Machine} {offset size : Word} {range : Nat × Nat}
      (earlier : Accesses rules start charged before) (moderate : Moderate rules before)
      (run : memoryRange rules offset size before = .ok range after) :
      Accesses rules start (charged + (before.frame.gas - after.frame.gas)) after
  | other {charged : Nat} {before after : Machine} (earlier : Accesses rules start charged before)
      (same : after.frame.memory.words = before.frame.memory.words) :
      Accesses rules start charged after

theorem Accesses.trans {rules : Rules} {start middle : Machine} {first second : Nat}
    (earlier : Accesses rules start first middle) (later : Accesses rules middle second after) :
    Accesses rules start (first + second) after := by
  induction later with
  | none => exact earlier
  | access _ moderate run ih =>
    rw [← Nat.add_assoc]
    exact ih.access moderate run
  | other _ same ih => exact ih.other same

theorem price_of_access {range : Nat × Nat} (moderate : Moderate (Mainnet.rules fork) machine)
    (run : memoryRange (Mainnet.rules fork) offset size machine = .ok range after) :
    machine.frame.gas - after.frame.gas + Gas.quadraticCost machine.frame.memory.words =
        Gas.quadraticCost after.frame.memory.words ∧
      after.frame.gas ≤ machine.frame.gas := by
  cases empty : size.isZero with
  | true =>
    rw [memoryRange_of_isZero empty] at run
    cases run
    simp
  | false =>
    rw [memoryRange_exact moderate empty] at run
    split at run
    · rename_i paid
      cases run
      have needed : neededWords machine offset size =
          max machine.frame.memory.words (wordCount (offset.toNat + size.toNat)) := rfl
      have grows := Gas.quadraticCost_mono
        (Nat.le_max_left machine.frame.memory.words (wordCount (offset.toNat + size.toNat)))
      rw [growthCost, needed] at paid
      simp only [Memory.words_resizeWords, growthCost, needed]
      omega
    · cases run

theorem Accesses.charged_eq {start : Machine} {charged : Nat}
    (accesses : Accesses (Mainnet.rules fork) start charged after) :
    charged + Gas.quadraticCost start.frame.memory.words =
      Gas.quadraticCost after.frame.memory.words := by
  induction accesses with
  | none => exact Nat.zero_add _
  | @access charged before after offset size range _ moderate run ih =>
    have price := (price_of_access moderate run).1
    calc
      charged + (before.frame.gas - after.frame.gas) +
            Gas.quadraticCost start.frame.memory.words =
          before.frame.gas - after.frame.gas +
            (charged + Gas.quadraticCost start.frame.memory.words) := by omega
      _ = before.frame.gas - after.frame.gas +
          Gas.quadraticCost before.frame.memory.words := by rw [ih]
      _ = Gas.quadraticCost after.frame.memory.words := price
  | other _ same ih => rw [ih, same]

theorem Moderate.of_access {range : Nat × Nat} (moderate : Moderate (Mainnet.rules fork) machine)
    (run : memoryRange (Mainnet.rules fork) offset size machine = .ok range after) :
    Moderate (Mainnet.rules fork) after := by
  obtain ⟨price, taken⟩ := price_of_access moderate run
  have bound := moderate_iff.mp moderate
  apply moderate_iff.mpr
  omega

theorem accesses_of_moves (moderate : Moderate (Mainnet.rules fork) machine)
    (moves : Moves (Mainnet.rules fork) machine after) :
    (∃ charged, Accesses (Mainnet.rules fork) machine charged after) ∧
      Moderate (Mainnet.rules fork) after := by
  induction moves with
  | refl => exact ⟨⟨0, .none⟩, moderate⟩
  | tail _ move ih =>
    obtain ⟨⟨charged, earlier⟩, moderate⟩ := ih
    cases move with
    | work works =>
      refine ⟨⟨charged, earlier.other works.words⟩, ?_⟩
      rw [Moderate, works.words]
      exact Nat.lt_of_le_of_lt (Nat.add_le_add_left works.gas _) moderate
    | access run => exact ⟨⟨_, earlier.access moderate run⟩, moderate.of_access run⟩

theorem ensures_step_accesses {setting : Setting} (standard : setting.rules = Mainnet.rules fork)
    (moderate : Moderate (Mainnet.rules fork) machine) :
    Ensures (step setting) machine fun _ after =>
      (∃ charged, Accesses (Mainnet.rules fork) machine charged after) ∧
        Moderate (Mainnet.rules fork) after := by
  apply ensures_step_of_execute ⟨⟨0, .none⟩, moderate⟩
  intro byte opcode price _
  have begun : Accesses (Mainnet.rules fork) machine 0 (machine.begin price) := .other .none rfl
  have bound : Moderate (Mainnet.rules fork) (machine.begin price) :=
    Nat.lt_of_le_of_lt (Nat.add_le_add_left (Nat.sub_le _ _) _) moderate
  cases redirects : opcode.redirects with
  | true =>
    apply ensures_mono (ensures_execute_of_redirects redirects _)
    intro _ after redirected
    obtain ⟨stack, position, rfl⟩ := redirected.same
    exact ⟨⟨0, begun.other rfl⟩, bound⟩
  | false =>
    apply ensures_mono (walks_execute redirects _)
    intro _ after moves
    rw [standard] at moves
    obtain ⟨⟨charged, later⟩, kept⟩ := accesses_of_moves bound moves
    exact ⟨⟨_, begun.trans later⟩, kept⟩

/-- How a frame goes on while the bound holds: by an instruction that ends well, or with what a
child hands back. Meanwhile the journal may have become any other one. -/
inductive GoesOn (setting : Setting) (before : Machine) : Machine → Prop where
  | step {control : Control} {after : Machine} (run : step setting before = .ok control after) :
      GoesOn setting before after
  | resumeCall {result : FrameResult} {offset size : Nat} {resumed : Frame} {journal : Journal}
      (resumes : before.frame.resumeCall? result offset size = some resumed)
      (moderate : Moderate setting.rules ⟨resumed, journal⟩) :
      GoesOn setting before ⟨resumed, journal⟩
  | resumeCreate (result : FrameResult) (address : Address) (journal : Journal)
      (moderate : Moderate setting.rules ⟨before.frame.resumeCreate result address, journal⟩) :
      GoesOn setting before ⟨before.frame.resumeCreate result address, journal⟩

theorem accesses_of_goesOn {setting : Setting} (standard : setting.rules = Mainnet.rules fork)
    (moderate : Moderate (Mainnet.rules fork) machine)
    (goes : Relation.ReflTransGen (GoesOn setting) machine after) :
    (∃ charged, Accesses (Mainnet.rules fork) machine charged after) ∧
      Moderate (Mainnet.rules fork) after := by
  induction goes with
  | refl => exact ⟨⟨0, .none⟩, moderate⟩
  | tail _ last ih =>
    obtain ⟨⟨charged, earlier⟩, bound⟩ := ih
    cases last with
    | step run =>
      obtain ⟨⟨more, later⟩, kept⟩ := (ensures_step_accesses standard bound).of_run run
      exact ⟨⟨_, earlier.trans later⟩, kept⟩
    | resumeCall resumes moderate =>
      rw [standard] at moderate
      exact ⟨⟨charged, earlier.other (Frame.words_of_resumeCall? resumes)⟩, moderate⟩
    | resumeCreate result address journal moderate =>
      rw [standard] at moderate
      exact ⟨⟨charged, earlier.other (Frame.words_resumeCreate _ result address)⟩, moderate⟩

/-- While gas and memory are together worth less than `2 ^ 45`, a range of no bytes is free, and any
other one is refused exactly when the gas does not cover the exact price of the words it is short
of; otherwise this price is taken, and memory has the words, with its old bytes and zeros. So what a
frame pays for memory is the price of the memory it ends with, whatever accesses led there; and
however a frame goes on, it makes such a sequence of accesses. The prices that occur come out alike
in numbers of 64 bits. -/
theorem memory_priced_exactly (fork : Fork) :
    (∀ (machine : Machine) (offset size : Word), Moderate (Mainnet.rules fork) machine →
      (size.isZero = true →
        memoryRange (Mainnet.rules fork) offset size machine = .ok (0, 0) machine) ∧
      (size.isZero = false → machine.frame.gas < growthCost machine offset size →
        memoryRange (Mainnet.rules fork) offset size machine = .error .outOfGas machine) ∧
      (size.isZero = false → growthCost machine offset size ≤ machine.frame.gas →
        ∃ memory : Memory, memory.words = neededWords machine offset size ∧
          memory.toBytes = machine.frame.memory.toBytes ++
            Bytes.zeros (32 * (neededWords machine offset size - machine.frame.memory.words)) ∧
          memoryRange (Mainnet.rules fork) offset size machine = .ok (offset.toNat, size.toNat)
            { machine with frame := { machine.frame with
              gas := machine.frame.gas - growthCost machine offset size, memory } })) ∧
      (∀ (context : CallContext) (code : Bytes) (gas : Nat) (journal : Journal) (charged : Nat)
          (after : Machine),
        Accesses (Mainnet.rules fork) ⟨Frame.start context code gas, journal⟩ charged after →
          charged = Gas.quadraticCost after.frame.memory.words) ∧
      (∀ (setting : Setting) (machine after : Machine), setting.rules = Mainnet.rules fork →
        Moderate (Mainnet.rules fork) machine →
        Relation.ReflTransGen (GoesOn setting) machine after →
          ∃ charged, Accesses (Mainnet.rules fork) machine charged after) ∧
      ∀ words, Gas.memoryCost (Mainnet.rules fork) words < 2 ^ 45 ∨ words ≤ 2 ^ 28 →
        Gas.saturatingMemoryCost (Mainnet.rules fork) words =
          Gas.memoryCost (Mainnet.rules fork) words := by
  refine ⟨?_, ?_, ?_, ?_⟩
  · intro machine offset size moderate
    refine ⟨fun empty => memoryRange_of_isZero empty machine, ?_, memoryRange_ok moderate⟩
    intro some short
    rw [memoryRange_exact moderate some, if_neg (Nat.not_le.mpr short)]
  · intro context code gas journal charged after accesses
    have priced := accesses.charged_eq
    rw [Frame.start, Memory.words_empty, Gas.quadraticCost_zero, Nat.add_zero] at priced
    exact priced
  · intro setting machine after standard moderate goes
    exact (accesses_of_goesOn standard moderate goes).1
  · intro words occurs
    apply Gas.saturatingMemoryCost_eq
    rcases occurs with moderate | inside
    · exact (Gas.quadraticCost_of_memoryCost_lt fork moderate).2
    · exact Nat.lt_of_le_of_lt inside (by decide)

def freshMachine : Machine where
  frame := Frame.start ⟨⟨0x20#160⟩, ⟨0x10#160⟩, ⟨0x20#160⟩, 0#256, [], false, 0⟩ [] 100
  journal := Journal.start {}

theorem memory_priced_exactly_fresh :
    Moderate (Mainnet.rules .london) freshMachine ∧
      (∃ memory : Memory, memory.words = 3 ∧
        memoryRange (Mainnet.rules .london) 64#256 32#256 freshMachine = .ok (64, 32)
          { freshMachine with frame := { freshMachine.frame with gas := 91, memory } }) ∧
      memoryRange (Mainnet.rules .london) Word.maximum 32#256 freshMachine =
        .error .outOfGas freshMachine := by
  have moderate : Moderate (Mainnet.rules .london) freshMachine := by
    rw [Moderate, Gas.memoryCost_mainnet]
    decide
  obtain ⟨exact, -⟩ := memory_priced_exactly .london
  obtain ⟨memory, words, -, run⟩ := (exact freshMachine 64#256 32#256 moderate).2.2 rfl (by decide)
  have refused := (exact freshMachine Word.maximum 32#256 moderate).2.1 rfl
  exact ⟨moderate, ⟨memory, words, run⟩, refused (by decide +kernel)⟩

end Exec

end Evm

end StateTransition
