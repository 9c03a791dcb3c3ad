import Mathlib.Data.List.Basic
import StateTransition.Proofs.Instruction.Operands
import StateTransition.Proofs.Word.Arithmetic

namespace StateTransition

@[simp] theorem Word.toNat_ofBool (condition : Bool) :
    (Word.ofBool condition).toNat = if condition then 1 else 0 := by
  cases condition <;> rfl

namespace Evm

namespace Opcode

def arithmeticOperands? : Opcode → Option Nat
  | add | mul | sub | div | sdiv | mod | smod | exp | signextend => some 2
  | lt | gt | slt | sgt | byte | shl | shr | sar => some 2
  | addmod | mulmod => some 3
  | _ => none

/-- The function an arithmetic instruction computes, of operands from the top on. A word counts as a
number without sign or, for the instructions that see signs, in two's complement. -/
def Computes : Opcode → List Word → Word → Prop
  | add, [a, b], result => result.toNat = (a.toNat + b.toNat) % 2 ^ 256
  | mul, [a, b], result => result.toNat = a.toNat * b.toNat % 2 ^ 256
  | sub, [a, b], result => (result.toNat : Int) = ((a.toNat : Int) - b.toNat) % 2 ^ 256
  | div, [a, b], result => result.toNat = if b.toNat = 0 then 0 else a.toNat / b.toNat
  | sdiv, [a, b], result =>
    result = if b.toNat = 0 then 0#256 else BitVec.ofInt 256 (a.toInt.tdiv b.toInt)
  | mod, [a, b], result => result.toNat = if b.toNat = 0 then 0 else a.toNat % b.toNat
  | smod, [a, b], result => result.toInt = if b.toNat = 0 then 0 else a.toInt.tmod b.toInt
  | addmod, [a, b, n], result =>
    result.toNat = if n.toNat = 0 then 0 else (a.toNat + b.toNat) % n.toNat
  | mulmod, [a, b, n], result =>
    result.toNat = if n.toNat = 0 then 0 else a.toNat * b.toNat % n.toNat
  | exp, [base, exponent], result => result.toNat = base.toNat ^ exponent.toNat % 2 ^ 256
  | signextend, [index, word], result => result.toInt =
    if index.toNat < 31 then (word.toNat : Int).bmod (2 ^ (8 * (index.toNat + 1))) else word.toInt
  | lt, [a, b], result => result.toNat = if a.toNat < b.toNat then 1 else 0
  | gt, [a, b], result => result.toNat = if b.toNat < a.toNat then 1 else 0
  | slt, [a, b], result => result.toNat = if a.toInt < b.toInt then 1 else 0
  | sgt, [a, b], result => result.toNat = if b.toInt < a.toInt then 1 else 0
  | byte, [index, word], result => result.toNat = (word.toBytes.getD index.toNat 0).toNat
  | shl, [shift, value], result => result.toNat = value.toNat * 2 ^ shift.toNat % 2 ^ 256
  | shr, [shift, value], result => result.toNat = value.toNat / 2 ^ shift.toNat
  | sar, [shift, value], result => result.toInt = value.toInt.fdiv (2 ^ shift.toNat)
  | _, _, _ => False

def operandPrice (rules : Rules) : Opcode → List Word → Nat
  | exp, [_, exponent] => Gas.exponent rules exponent
  | _, _ => 0

end Opcode

namespace Exec

variable {α : Type} {rules : Rules} {setting : Setting}

/-- Where there are the operands and the gas, the action replaces the operands by a result and takes
the gas, and changes nothing else. -/
def Replaces (action : Exec α) (answer : α) (operands : List Word) (result : Word) (price : Nat) :
    Prop :=
  ∀ (machine : Machine) (rest : List Word), machine.frame.stack.toList = operands ++ rest →
    price ≤ machine.frame.gas → ∃ stack : Stack, stack.toList = result :: rest ∧
      action machine = .ok answer
        { machine with frame := { machine.frame with stack, gas := machine.frame.gas - price } }

theorem replaces_binary (operation : Word → Word → Word) (a b : Word) :
    Replaces (binary operation) () [a, b] (operation a b) 0 := by
  intro machine rest items _
  obtain ⟨words, stack, taken, popped, room⟩ := popMany_operands 2 items rfl Nat.two_pos
  obtain ⟨pushed, fits, list⟩ := room (operation a b)
  have first : a = words[0] := Option.some.inj (taken 0)
  have second : b = words[1] := Option.some.inj (taken 1)
  refine ⟨pushed, list, ?_⟩
  simp only [binary, bind, EStateM.bind, popped, ← first, ← second, push,
    onStack, fits, Nat.sub_zero]

theorem replaces_ternary (operation : Word → Word → Word → Word) (a b c : Word) :
    Replaces (ternary operation) () [a, b, c] (operation a b c) 0 := by
  intro machine rest items _
  obtain ⟨words, stack, taken, popped, room⟩ := popMany_operands 3 items rfl (by decide)
  obtain ⟨pushed, fits, list⟩ := room (operation a b c)
  have first : a = words[0] := Option.some.inj (taken 0)
  have second : b = words[1] := Option.some.inj (taken 1)
  have third : c = words[2] := Option.some.inj (taken 2)
  refine ⟨pushed, list, ?_⟩
  simp only [ternary, popThree, bind, EStateM.bind, pure, EStateM.pure, popped, ← first, ← second,
    ← third, push, onStack, fits, Nat.sub_zero]

theorem replaces_exponentiate (base exponent : Word) :
    Replaces (exponentiate rules) () [base, exponent] (Word.power base exponent)
      (Gas.exponent rules exponent) := by
  intro machine rest items enough
  obtain ⟨words, stack, taken, popped, room⟩ := popMany_operands 2 items rfl Nat.two_pos
  obtain ⟨pushed, fits, list⟩ := room (Word.power base exponent)
  have first : base = words[0] := Option.some.inj (taken 0)
  have second : exponent = words[1] := Option.some.inj (taken 1)
  refine ⟨pushed, list, ?_⟩
  simp only [exponentiate, bind, EStateM.bind, popped, ← first, ← second, useGas,
    if_neg (Nat.not_lt.mpr enough), push, onStack, fits]

theorem replaces_proceed {action : Exec Unit} {operands : List Word} {result : Word} {price : Nat}
    (replaces : Replaces action () operands result price) :
    Replaces (proceed action) .next operands result price := by
  intro machine rest items enough
  obtain ⟨stack, list, run⟩ := replaces machine rest items enough
  refine ⟨stack, list, ?_⟩
  simp only [proceed, bind, EStateM.bind, run]
  rfl

end Exec

namespace Opcode

theorem computes_sub (a b : Word) : Computes .sub [a, b] (a - b) := by
  have below := b.isLt
  rw [Computes, BitVec.toNat_sub]
  omega

theorem computes_signextend (index word : Word) :
    Computes .signextend [index, word] (Word.signExtend index word) := by
  rw [Computes]
  split
  · rename_i short
    exact Word.toInt_signExtend short word
  · rename_i long
    rw [Word.signExtend, if_neg long]

theorem computes_lt (a b : Word) : Computes .lt [a, b] (Word.ofBool (a < b)) := by
  simp only [Computes, Word.toNat_ofBool, decide_eq_true_iff, BitVec.lt_def]

theorem computes_slt (a b : Word) : Computes .slt [a, b] (Word.ofBool (Word.signedLess a b)) := by
  simp only [Computes, Word.toNat_ofBool, Word.signedLess_iff]

theorem arithmeticOperands?_cases {opcode : Opcode} {count : Nat}
    (counted : opcode.arithmeticOperands? = some count) : count = 2 ∨ count = 3 := by
  unfold arithmeticOperands? at counted
  grind

theorem operandPrice_of_ne_exp {rules : Rules} {opcode : Opcode} (plain : opcode ≠ .exp)
    (operands : List Word) : opcode.operandPrice rules operands = 0 := by
  cases opcode with
  | exp => exact absurd rfl plain
  | _ => rfl

theorem exists_binary {opcode : Opcode} (setting : Setting)
    (operands : opcode.arithmeticOperands? = some 2) (plain : opcode ≠ .exp) :
    ∃ operation, Exec.execute setting opcode = Exec.proceed (Exec.binary operation) ∧
      ∀ a b, opcode.Computes [a, b] (operation a b) := by
  cases opcode with
  | add => exact ⟨_, rfl, BitVec.toNat_add⟩
  | mul => exact ⟨_, rfl, BitVec.toNat_mul⟩
  | sub => exact ⟨_, rfl, computes_sub⟩
  | div => exact ⟨_, rfl, Word.toNat_div⟩
  | sdiv => exact ⟨_, rfl, Word.signedDiv_eq_ofInt⟩
  | mod => exact ⟨_, rfl, Word.toNat_rem⟩
  | smod => exact ⟨_, rfl, Word.toInt_signedRem⟩
  | exp => exact absurd rfl plain
  | signextend => exact ⟨_, rfl, computes_signextend⟩
  | lt => exact ⟨_, rfl, computes_lt⟩
  | gt => exact ⟨_, rfl, fun a b => computes_lt b a⟩
  | slt => exact ⟨_, rfl, computes_slt⟩
  | sgt => exact ⟨_, rfl, fun a b => computes_slt b a⟩
  | byte => exact ⟨_, rfl, Word.toNat_byteAt⟩
  | shl => exact ⟨_, rfl, Word.toNat_shiftLeft⟩
  | shr => exact ⟨_, rfl, Word.toNat_shiftRight⟩
  | sar => exact ⟨_, rfl, Word.toInt_arithmeticShiftRight⟩
  | _ => simp [arithmeticOperands?] at operands

theorem exists_ternary {opcode : Opcode} (setting : Setting)
    (operands : opcode.arithmeticOperands? = some 3) :
    ∃ operation, Exec.execute setting opcode = Exec.proceed (Exec.ternary operation) ∧
      ∀ a b n, opcode.Computes [a, b, n] (operation a b n) := by
  cases opcode with
  | addmod => exact ⟨_, rfl, Word.toNat_addMod⟩
  | mulmod => exact ⟨_, rfl, Word.toNat_mulMod⟩
  | _ => simp [arithmeticOperands?] at operands

end Opcode

/-- Every arithmetic instruction with enough operands and gas leaves the value of its function in
place of the operands. Quotient and remainder of signed division fit together, dividing the least
number by minus one gives it back, reduction from 512 bits always gives a word, and the bytes that
an exponent is paid by are the fewest that hold it. -/
theorem arithmetic_exact (setting : Setting) :
    (∀ (opcode : Opcode) (operands : List Word),
      opcode.arithmeticOperands? = some operands.length → ∃ result,
        opcode.Computes operands result ∧
          Exec.Replaces (Exec.execute setting opcode) .next operands result
            (opcode.operandPrice setting.rules operands)) ∧
      (∀ a b : Word, b.toNat ≠ 0 → Word.signedDiv a b * b + Word.signedRem a b = a) ∧
      Word.signedDiv (BitVec.intMin 256) (-1#256) = BitVec.intMin 256 ∧
      (∀ a b n : Word, n.toNat ≠ 0 →
        Word.narrow? ((a.setWidth 512 + b.setWidth 512) % n.setWidth 512) =
            some (Word.addMod a b n) ∧
          Word.narrow? ((a.setWidth 512 * b.setWidth 512) % n.setWidth 512) =
            some (Word.mulMod a b n)) ∧
      ∀ word : Word, IsLeast {count | word.toNat < 2 ^ (8 * count)} word.byteLength := by
  refine ⟨?_, fun a b => Word.signedDiv_mul_add_signedRem a, by decide,
    fun a b n positive => ⟨Word.narrow?_addMod a b positive, Word.narrow?_mulMod a b positive⟩,
    Word.isLeast_byteLength⟩
  intro opcode operands counted
  rcases Opcode.arithmeticOperands?_cases counted with two | three
  · obtain ⟨a, b, rfl⟩ := List.length_eq_two.mp two
    by_cases priced : opcode = .exp
    · subst priced
      exact ⟨Word.power a b, Word.toNat_power a b,
        Exec.replaces_proceed (Exec.replaces_exponentiate a b)⟩
    · obtain ⟨operation, runs, computes⟩ := Opcode.exists_binary setting counted priced
      rw [runs, Opcode.operandPrice_of_ne_exp priced]
      exact ⟨_, computes a b, Exec.replaces_proceed (Exec.replaces_binary operation a b)⟩
  · obtain ⟨a, b, n, rfl⟩ := List.length_eq_three.mp three
    have plain : opcode ≠ .exp := by
      rintro rfl
      cases counted
    obtain ⟨operation, runs, computes⟩ := Opcode.exists_ternary setting counted
    rw [runs, Opcode.operandPrice_of_ne_exp plain]
    exact ⟨_, computes a b n, Exec.replaces_proceed (Exec.replaces_ternary operation a b n)⟩

def dividingSetting : Setting := ⟨{}, Mainnet.rules .london, ⟨0x10#160⟩, 10#256⟩

def dividingMachine : Machine where
  frame := { Frame.start ⟨⟨0x20#160⟩, ⟨0x10#160⟩, ⟨0x20#160⟩, 0#256, [], false, 0⟩ [] 0 with
    stack := ⟨#[7#256, -1#256, BitVec.intMin 256], by decide⟩ }
  journal := Journal.start {}

theorem arithmetic_exact_least : ∃ stack : Stack, stack.toList = [BitVec.intMin 256, 7#256] ∧
    Exec.execute dividingSetting .sdiv dividingMachine = .ok .next
      { dividingMachine with frame := { dividingMachine.frame with stack } } := by
  obtain ⟨result, computes, replaces⟩ :=
    (arithmetic_exact dividingSetting).1 .sdiv [BitVec.intMin 256, -1#256] rfl
  have least : result = BitVec.intMin 256 := computes.trans (by decide)
  rw [least] at replaces
  exact replaces dividingMachine [7#256] rfl (Nat.zero_le _)

end Evm

end StateTransition
