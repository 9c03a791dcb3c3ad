import StateTransition.Proofs.Instruction.Operands
import StateTransition.Proofs.Instruction.Positions
import StateTransition.Proofs.Instruction.Requests

/-!
Calls that move no value. All four schemes charge the same and hand on the same: what is paid for
and handed on is worked out without the scheme, and only the request that is made of it says who
calls whom.
-/

namespace StateTransition

namespace Mainnet

theorem opcodeGas_call {fork : Fork} (modern : Fork.byzantium ≤ fork) (scheme : Evm.CallScheme) :
    (rules fork).opcodeGas scheme.opcode.toByte =
      some (if Fork.berlin ≤ fork then 0 else 700) := by
  have prices : ∀ byte ∈ [0xf1, 0xf2, 0xf4, 0xfa], Fork.byzantium ≤ fork →
      (known? fork (.opcode byte)).map UInt64.toNat =
        some (if Fork.berlin ≤ fork then 0 else 700) := by
    cases fork <;> decide +kernel
  rw [opcodeGas_rules, value_rules]
  cases scheme <;> exact prices _ (by decide) modern

end Mainnet

namespace Evm

/-- What a call finds on the stack but for a value, from the top on. -/
structure CallOperands where
  requested : Word
  target : Word
  inputOffset : Word
  inputSize : Word
  returnOffset : Word
  returnSize : Word

def CallScheme.noValue : CallScheme → List Word
  | call | callCode => [0#256]
  | delegateCall | staticCall => []

def CallOperands.ranges (operands : CallOperands) : List Word :=
  [operands.inputOffset, operands.inputSize, operands.returnOffset, operands.returnSize]

def CallOperands.items (operands : CallOperands) (scheme : CallScheme) : List Word :=
  operands.requested :: operands.target :: (scheme.noValue ++ operands.ranges)

/-- What a call without value hands on, whichever scheme it has. -/
structure Errand where
  codeAddress : Address
  input : Bytes
  gas : Nat
  depth : Nat
  returnOffset : Nat
  returnSize : Nat
  deriving DecidableEq, Repr

/-- What a scheme makes of an errand: who calls whom with which value, whether the value moves, and
whether the callee may write. -/
def Errand.request (errand : Errand) (context : CallContext) (scheme : CallScheme) :
    CallRequest where
  scheme := scheme
  caller := (Exec.callParties context scheme errand.codeAddress 0#256).1
  address := (Exec.callParties context scheme errand.codeAddress 0#256).2.1
  codeAddress := errand.codeAddress
  value := (Exec.callParties context scheme errand.codeAddress 0#256).2.2
  transfers := scheme == .call || scheme == .callCode
  input := errand.input
  gas := errand.gas
  isStatic := context.isStatic || scheme == .staticCall
  depth := errand.depth
  returnOffset := errand.returnOffset
  returnSize := errand.returnSize

/-- The same machine with another program and other items on the stack. -/
def Machine.equip (machine : Machine) (code : Code) (stack : Stack) : Machine :=
  { machine with frame := { machine.frame with code, stack } }

/-- The machine is at a call without value, and has below the operands the stack of another machine,
from which it differs in nothing else but the code. -/
structure Machine.AtCall (machine common : Machine) (scheme : CallScheme)
    (operands : CallOperands) : Prop where
  next : machine.frame.code.bytes[machine.frame.position]? = some scheme.opcode.toByte
  items : machine.frame.stack.toList = operands.items scheme ++ common.frame.stack.toList
  same : machine = common.equip machine.frame.code machine.frame.stack

namespace Exec

variable {α β : Type} {rules : Rules} {setting : Setting} {machine : Machine}

def equipResult {α : Type} (code : Code) (stack : Stack) :
    EStateM.Result Halt Machine α → EStateM.Result Halt Machine α
  | .ok answer machine => .ok answer (machine.equip code stack)
  | .error reason machine => .error reason (machine.equip code stack)

/-- Code and stack make no difference to the action, and it leaves them as they are. -/
def IgnoresProgram {α : Type} (action : Exec α) : Prop :=
  ∀ machine code stack,
    action (machine.equip code stack) = equipResult code stack (action machine)

theorem ignoresProgram_pure (answer : α) : IgnoresProgram (pure answer : Exec α) :=
  fun _ _ _ => rfl

theorem ignoresProgram_bind {action : Exec α} {next : α → Exec β}
    (first : IgnoresProgram action) (rest : ∀ answer, IgnoresProgram (next answer)) :
    IgnoresProgram (action >>= next) := by
  intro machine code stack
  simp only [bind, EStateM.bind, first machine code stack]
  cases action machine with
  | ok answer middle => exact rest answer middle code stack
  | error reason middle => rfl

theorem ignoresProgram_useGas (amount : Nat) : IgnoresProgram (useGas amount) := by
  intro machine code stack
  by_cases short : machine.frame.gas < amount
  · simp [useGas, Machine.equip, equipResult, short]
  · simp [useGas, Machine.equip, equipResult, short]

theorem ignoresProgram_readBytes (offset size : Nat) : IgnoresProgram (readBytes offset size) := by
  intro machine code stack
  simp only [readBytes, Machine.equip]
  cases machine.frame.memory.slice? offset size <;> rfl

theorem ignoresProgram_memoryRange (offset size : Word) :
    IgnoresProgram (memoryRange rules offset size) := by
  intro machine code stack
  cases empty : size.isZero with
  | true => rw [memoryRange_of_isZero empty, memoryRange_of_isZero empty, equipResult]
  | false =>
    rw [memoryRange_eq empty, memoryRange_eq empty, apply_ite (equipResult code stack)]
    rfl

theorem ignoresProgram_accessAccount (address : Address) :
    IgnoresProgram (accessAccount rules address) := by
  rw [accessAccount]
  split
  · exact ignoresProgram_bind (fun _ _ _ => rfl) fun _ => ignoresProgram_useGas _
  · exact ignoresProgram_pure ()

def errand (rules : Rules) (operands : CallOperands) : Exec Errand := do
  let (inputOffset, inputSize) ← memoryRange rules operands.inputOffset operands.inputSize
  let (returnOffset, returnSize) ← memoryRange rules operands.returnOffset operands.returnSize
  accessAccount rules (Address.ofWord operands.target)
  match Gas.forCall rules operands.requested (← gas) with
  | none => throw .outOfGas
  | some handed =>
    useGas handed
    let depth := (← context).depth + 1
    modifyFrame ({ · with returnData := [] })
    let input ← readBytes inputOffset inputSize
    return ⟨Address.ofWord operands.target, input, handed, depth, returnOffset, returnSize⟩

theorem ignoresProgram_errand (operands : CallOperands) :
    IgnoresProgram (errand rules operands) := by
  apply ignoresProgram_bind (ignoresProgram_memoryRange _ _)
  intro input
  apply ignoresProgram_bind (ignoresProgram_memoryRange _ _)
  intro output
  apply ignoresProgram_bind (ignoresProgram_accessAccount _)
  intro _
  apply ignoresProgram_bind fun _ _ _ => rfl
  intro available
  cases Gas.forCall rules operands.requested available with
  | none => exact fun _ _ _ => rfl
  | some handed =>
    apply ignoresProgram_bind (ignoresProgram_useGas handed)
    intro _
    apply ignoresProgram_bind fun _ _ _ => rfl
    intro context
    apply ignoresProgram_bind fun _ _ _ => rfl
    intro _
    exact ignoresProgram_bind (ignoresProgram_readBytes _ _) fun _ => ignoresProgram_pure _

theorem ite_bind_of_ok {condition : Prop} [Decidable condition] {yes no : Exec α}
    {next : α → Exec β} {answer : α} {after : Machine}
    (run : (if condition then yes else no) machine = .ok answer after) :
    (if condition then yes >>= next else no >>= next) machine = next answer after := by
  by_cases holds : condition
  · rw [if_pos holds] at run ⊢
    exact bind_of_ok run
  · rw [if_neg holds] at run ⊢
    exact bind_of_ok run

theorem popAddress_of_items {word : Word} {rest : List Word}
    (items : machine.frame.stack.toList = word :: rest) :
    ∃ stack : Stack, stack.toList = rest ∧
      popAddress machine = .ok (Address.ofWord word) (machine.equip machine.frame.code stack) := by
  obtain ⟨stack, left, popped⟩ := pop_of_items items
  exact ⟨stack, left, bind_of_ok popped⟩

theorem noValue_of_items {scheme : CallScheme} {rest : List Word}
    (items : machine.frame.stack.toList = scheme.noValue ++ rest) :
    ∃ stack : Stack, stack.toList = rest ∧
      (if scheme == .call || scheme == .callCode then pop else pure 0#256) machine =
        .ok 0#256 (machine.equip machine.frame.code stack) := by
  cases scheme with
  | call | callCode => exact pop_of_items items
  | delegateCall | staticCall => exact ⟨machine.frame.stack, items, rfl⟩

theorem popRanges_of_items {operands : CallOperands} {stack : Stack}
    (items : machine.frame.stack.toList = operands.ranges ++ stack.toList) :
    popMany 4 machine =
      .ok #v[operands.inputOffset, operands.inputSize, operands.returnOffset, operands.returnSize]
        (machine.equip machine.frame.code stack) := by
  have enough : 4 ≤ machine.frame.stack.size := by
    rw [Stack.size, ← Stack.length_toList, items, List.length_append]
    exact Nat.le_add_right _ _
  obtain ⟨words, popped, listed⟩ := Stack.popMany_of_le enough
  have rest : machine.frame.stack.dropTop 4 = stack := by
    apply Stack.ext_toList
    rw [Stack.toList_dropTop, items]
    rfl
  have taken : words = #v[operands.inputOffset, operands.inputSize, operands.returnOffset,
      operands.returnSize] := by
    rw [items] at listed
    exact Vector.toList_inj.mp listed
  rw [popMany, onStack_of_ok popped, rest, taken]
  rfl

theorem callSurcharge_of_no_value (cleansUp : rules.isActive .emptyAccountCleanup = true)
    (journal : Journal) (scheme : CallScheme) (target : Address) :
    callSurcharge rules journal scheme target false = 0 := by
  simp [callSurcharge, cleansUp]

theorem call_of_items (cleansUp : setting.rules.isActive .emptyAccountCleanup = true)
    {scheme : CallScheme} {operands : CallOperands} {stack : Stack}
    (items : machine.frame.stack.toList = operands.items scheme ++ stack.toList) :
    call setting scheme machine =
      (errand setting.rules operands >>= fun errand =>
        return .call (errand.request machine.frame.context scheme))
        (machine.equip machine.frame.code stack) := by
  obtain ⟨asked, targets, requested⟩ := pop_of_items items
  refine (bind_of_ok requested).trans ?_
  have targets : (machine.equip machine.frame.code asked).frame.stack.toList =
      operands.target :: (scheme.noValue ++ operands.ranges ++ stack.toList) := targets
  obtain ⟨aimed, values, target⟩ := popAddress_of_items targets
  refine (bind_of_ok target).trans ?_
  have values : (machine.equip machine.frame.code aimed).frame.stack.toList =
      scheme.noValue ++ (operands.ranges ++ stack.toList) :=
    values.trans (List.append_assoc _ _ _)
  obtain ⟨valued, ranges, value⟩ := noValue_of_items values
  refine (ite_bind_of_ok value).trans ?_
  have ranges : (machine.equip machine.frame.code valued).frame.stack.toList =
      operands.ranges ++ stack.toList := ranges
  refine (bind_of_ok (popRanges_of_items ranges)).trans ?_
  have still : ¬ (scheme == .call && !Word.isZero 0#256) = true := by cases scheme <;> decide
  rw [if_neg still, errand, bind_assoc]
  apply bind_congr_at rfl
  intro input read reads
  have same := ((follows setting.rules (.memoryRange _ _) _).of_run reads).context
  rw [bind_assoc]
  apply bind_congr_at rfl
  intro output wide widens
  have same := ((follows setting.rules (.memoryRange _ _) _).of_run widens).context.trans same
  rw [bind_assoc]
  apply bind_congr_at rfl
  intro _ accessed accesses
  have same := ((follows setting.rules (.accessAccount _) _).of_run accesses).context.trans same
  -- what the surcharge reads of the journal makes no difference, since it is zero
  have free : useGas (callSurcharge setting.rules accessed.journal scheme
      (Address.ofWord operands.target) false) accessed = .ok () accessed := by
    rw [callSurcharge_of_no_value cleansUp]
    rfl
  have looks : journal accessed = .ok accessed.journal accessed := rfl
  refine (bind_of_ok looks).trans ((bind_of_ok free).trans ?_)
  rw [bind_assoc]
  apply bind_congr_at rfl
  intro available _ same'
  cases same'
  cases Gas.forCall setting.rules operands.requested accessed.frame.gas with
  | none => rfl
  | some handed =>
    dsimp only
    rw [bind_assoc]
    apply bind_congr_at rfl
    intro _ debited debits
    have same := ((follows_useGas _).of_run debits).context.trans same
    simp only [bind_assoc, pure_bind]
    apply bind_congr_at rfl
    intro context _ reads
    cases reads
    rw [same]
    apply bind_congr_at rfl
    intro _ _ _
    apply bind_congr_at rfl
    intro bytes _ _
    rfl

theorem step_of_atCall {common : Machine} {scheme : CallScheme} {operands : CallOperands}
    {price : Nat} (cleansUp : setting.rules.isActive .emptyAccountCleanup = true)
    (calls : machine.AtCall common scheme operands)
    (priced : setting.rules.opcodeGas scheme.opcode.toByte = some price)
    (enough : price ≤ common.frame.gas) :
    step setting machine =
      (errand setting.rules operands >>= fun errand =>
        return .call (errand.request common.frame.context scheme))
        ((common.begin price).equip machine.frame.code common.frame.stack) := by
  have paid : price ≤ machine.frame.gas := by
    rw [calls.same]
    exact enough
  have begun : (machine.begin price).equip machine.frame.code common.frame.stack =
      (common.begin price).equip machine.frame.code common.frame.stack := by
    rw [calls.same]
    rfl
  have context : machine.frame.context = common.frame.context := by
    rw [calls.same]
    rfl
  rw [step_of_standsAt ⟨calls.next, priced, Opcode.ofByte?_toByte _, paid⟩, ← begun, ← context]
  have items : (machine.begin price).frame.stack.toList =
      operands.items scheme ++ common.frame.stack.toList := calls.items
  cases scheme <;> exact call_of_items cleansUp items

theorem step_of_short {common : Machine} {scheme : CallScheme} {operands : CallOperands}
    {price : Nat} (calls : machine.AtCall common scheme operands)
    (priced : setting.rules.opcodeGas scheme.opcode.toByte = some price)
    (short : common.frame.gas < price) :
    step setting machine = .error .outOfGas machine := by
  have unpaid : machine.frame.gas < price := by
    rw [calls.same]
    exact short
  simp only [step, bind, EStateM.bind, frame, calls.next, priced, Opcode.ofByte?_toByte, useGas,
    if_pos unpaid]

end Exec

/-- From Byzantium on the four calls do the same where no value moves: on machines that differ only
in which of them comes next, either all four halt for one reason, or all four leave the same gas,
memory, journal and stack below the operands, and hand on the same errand. -/
theorem calls_charge_alike {fork : Fork} (modern : Fork.byzantium ≤ fork) {setting : Setting}
    (standard : setting.rules = Mainnet.rules fork) (common : Machine) (operands : CallOperands)
    {machines : CallScheme → Machine}
    (calls : ∀ scheme, (machines scheme).AtCall common scheme operands) :
    (∃ reason, ∀ scheme, ∃ halted, Exec.step setting (machines scheme) = .error reason halted) ∨
      ∃ (errand : Errand) (after : Machine), ∀ scheme,
        Exec.step setting (machines scheme) =
          .ok (.call (errand.request common.frame.context scheme))
            (after.equip (machines scheme).frame.code common.frame.stack) := by
  have cleansUp : setting.rules.isActive .emptyAccountCleanup = true := by
    rw [standard, Mainnet.isActive_emptyAccountCleanup]
    exact decide_eq_true modern
  have priced (scheme : CallScheme) := Mainnet.opcodeGas_call modern scheme
  rw [← standard] at priced
  generalize (if Fork.berlin ≤ fork then 0 else 700) = price at priced
  by_cases short : common.frame.gas < price
  · left
    exact ⟨.outOfGas, fun scheme => ⟨_, Exec.step_of_short (calls scheme) (priced scheme) short⟩⟩
  have enough := Nat.le_of_not_lt short
  have shared (scheme : CallScheme) :=
    Exec.step_of_atCall cleansUp (calls scheme) (priced scheme) enough
  simp only [bind, EStateM.bind, Exec.ignoresProgram_errand operands (common.begin price)] at shared
  cases run : Exec.errand setting.rules operands (common.begin price) with
  | error reason halted =>
    left
    rw [run] at shared
    exact ⟨reason, fun scheme => ⟨_, shared scheme⟩⟩
  | ok errand after =>
    right
    rw [run] at shared
    exact ⟨errand, after, shared⟩

def callingSetting : Setting := ⟨{}, Mainnet.rules .london, ⟨0x10#160⟩, 10#256⟩

def callingMachine : Machine where
  frame := { Frame.start ⟨⟨0x20#160⟩, ⟨0x10#160⟩, ⟨0x20#160⟩, 3#256, [], false, 0⟩ [] 100000 with
    stack := ⟨#[9#256], by decide⟩ }
  journal := Journal.start {}

def errandOperands : CallOperands := ⟨50000#256, 0x30#256, 0#256, 4#256, 32#256, 32#256⟩

def atCall (scheme : CallScheme) : Machine :=
  callingMachine.equip (Code.ofBytes [scheme.opcode.toByte])
    ⟨(9#256 :: (errandOperands.items scheme).reverse).toArray, by cases scheme <;> decide⟩

theorem calls_charge_alike_fresh : ∃ (errand : Errand) (after : Machine),
    (∀ scheme, Exec.step callingSetting (atCall scheme) =
      .ok (.call (errand.request callingMachine.frame.context scheme))
        (after.equip (atCall scheme).frame.code callingMachine.frame.stack)) ∧
      errand.gas = 50000 ∧ after.frame.gas = 100000 - 6 - 2600 - 50000 := by
  have calls (scheme : CallScheme) :
      (atCall scheme).AtCall callingMachine scheme errandOperands := by
    cases scheme <;> exact ⟨rfl, rfl, rfl⟩
  have runs : (match Exec.step callingSetting (atCall .call) with
      | .ok (.call request) after => some (request.gas, after.frame.gas)
      | _ => none) = some (50000, 100000 - 6 - 2600 - 50000) := by
    simp only [callingSetting, Mainnet.rules_eq_readOff]
    decide +kernel
  have modern : Fork.byzantium ≤ .london := by decide
  have standard : callingSetting.rules = Mainnet.rules .london := by rw [callingSetting]
  rcases calls_charge_alike modern standard callingMachine errandOperands calls with
    ⟨reason, halts⟩ | ⟨errand, after, shared⟩
  · obtain ⟨halted, halt⟩ := halts .call
    rw [halt] at runs
    cases runs
  · refine ⟨errand, after, shared, ?_⟩
    rw [shared .call] at runs
    exact Prod.mk.inj (Option.some.inj runs)

end Evm

end StateTransition
