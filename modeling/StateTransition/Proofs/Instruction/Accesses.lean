import StateTransition.Proofs.Fork.Lookup
import StateTransition.Proofs.Instruction.Outcomes

namespace StateTransition

/-- The same rules but for the prices of first accesses. -/
def Rules.withColdPrices (rules : Rules) (account slot : UInt64) : Rules :=
  (rules.assign .coldAccountAccess account).assign .coldSload slot

/-- First accesses have a price, to accounts and to slots. -/
structure Rules.PricesAccesses (rules : Rules) : Prop where
  accounts : rules.defines .coldAccountAccess = true
  slots : rules.defines .coldSload = true

namespace Rules

variable {rules : Rules} (account slot : UInt64) {param : Param}

@[simp] theorem value_withColdPrices (noAccount : Param.coldAccountAccess ≠ param)
    (noSlot : Param.coldSload ≠ param) :
    (rules.withColdPrices account slot).value param = rules.value param := by
  rw [withColdPrices, value_assign, if_neg fun same => noSlot (Key.rank_injective same),
    value_assign, if_neg fun same => noAccount (Key.rank_injective same)]

@[simp] theorem amount_withColdPrices (noAccount : Param.coldAccountAccess ≠ param)
    (noSlot : Param.coldSload ≠ param) :
    (rules.withColdPrices account slot).amount param = rules.amount param := by
  rw [amount, value_withColdPrices account slot noAccount noSlot, amount]

@[simp] theorem isActive_withColdPrices (noAccount : Param.coldAccountAccess ≠ param)
    (noSlot : Param.coldSload ≠ param) :
    (rules.withColdPrices account slot).isActive param = rules.isActive param := by
  rw [isActive, value_withColdPrices account slot noAccount noSlot, isActive]

@[simp] theorem opcodeGas_withColdPrices (byte : UInt8) :
    (rules.withColdPrices account slot).opcodeGas byte = rules.opcodeGas byte := rfl

theorem pricesAccesses_withColdPrices : (rules.withColdPrices account slot).PricesAccesses := by
  constructor
  · rw [defines, withColdPrices, value_assign, value_assign, if_neg (by decide), if_pos rfl]
    rfl
  · rw [defines, withColdPrices, value_assign, if_pos rfl]
    rfl

end Rules

namespace Evm

/-- What can be accessed: an account, or a slot of an account. -/
inductive Access where
  | account (address : Address)
  | slot (address : Address) (key : Word)
  deriving DecidableEq, Repr

def Access.named (word : Word) : Access := .account (Address.ofWord word)

def Access.isWarm (journal : Journal) : Access → Bool
  | .account address => journal.isWarm address
  | .slot address key => journal.warmSlots.contains (address, key)

theorem Journal.StaysWarm.isWarm {before after : Journal} (stays : before.StaysWarm after)
    {access : Access} (warm : access.isWarm before = true) : access.isWarm after = true := by
  cases access with
  | account address => exact stays.accounts address warm
  | slot address key => exact stays.slots (address, key) warm

/-- What an instruction accesses, by its operands: the account it names, or a slot of the account
that runs it. -/
def Opcode.access? (context : CallContext) (operands : List Word) : Opcode → Option Access
  | .balance | .extcodesize | .extcodecopy | .extcodehash | .selfdestruct =>
    operands[0]?.map .named
  | .call | .callcode | .delegatecall | .staticcall =>
    operands[1]?.map .named
  | .sload | .sstore => operands[0]?.map (Access.slot context.address)
  | _ => none

/-- What the instruction accesses that the frame is at. -/
def Machine.access? (machine : Machine) : Option Access := do
  let byte ← machine.frame.code.bytes[machine.frame.position]?
  let opcode ← Opcode.ofByte? byte
  opcode.access? machine.frame.context machine.frame.stack.toList

def Setting.withColdPrices (setting : Setting) (account slot : UInt64) : Setting :=
  { setting with rules := setting.rules.withColdPrices account slot }

section Prices

variable {rules : Rules} (account slot : UInt64)

namespace Gas

@[simp] theorem memoryGrowth_withColdPrices (current needed : Nat) :
    memoryGrowth (rules.withColdPrices account slot) current needed =
      memoryGrowth rules current needed := by
  simp [memoryGrowth, memoryCost]

@[simp] theorem copy_withColdPrices (length : Nat) :
    copy (rules.withColdPrices account slot) length = copy rules length := by
  simp [copy]

@[simp] theorem hashing_withColdPrices (length : Nat) :
    hashing (rules.withColdPrices account slot) length = hashing rules length := by
  simp [hashing]

@[simp] theorem forCall_withColdPrices (requested : Word) (available : Nat) :
    forCall (rules.withColdPrices account slot) requested available =
      forCall rules requested available := by
  simp [forCall]

@[simp] theorem write_withColdPrices (change : SlotWrite) :
    write (rules.withColdPrices account slot) change false = write rules change false := by
  simp [write, netWrite, plainWrite, clearingRefund, restoringRefund]

end Gas

namespace Exec

@[simp] theorem memoryRange_withColdPrices (offset size : Word) :
    memoryRange (rules.withColdPrices account slot) offset size = memoryRange rules offset size := by
  simp [memoryRange]

@[simp] theorem callSurcharge_withColdPrices (journal : Journal) (scheme : CallScheme)
    (target : Address) (movesValue : Bool) :
    callSurcharge (rules.withColdPrices account slot) journal scheme target movesValue =
      callSurcharge rules journal scheme target movesValue := by
  simp [callSurcharge]

@[simp] theorem payForBeneficiary_withColdPrices (address beneficiary : Address) :
    payForBeneficiary (rules.withColdPrices account slot) address beneficiary =
      payForBeneficiary rules address beneficiary := by
  simp [payForBeneficiary, makesBeneficiary, Rules.defines]

@[simp] theorem closeAccount_withColdPrices (address beneficiary : Address) :
    closeAccount (rules.withColdPrices account slot) address beneficiary =
      closeAccount rules address beneficiary := by
  funext journal
  simp [closeAccount]

end Exec

end Prices

namespace Exec

variable {α β : Type} {setting : Setting} {rules : Rules} {machine popped : Machine}
  {address : Address} {key : Word}

theorem bind_congr_at {first second : Exec α} {next after : α → Exec β}
    (same : first machine = second machine)
    (rest : ∀ answer reached, second machine = .ok answer reached →
      next answer reached = after answer reached) :
    (first >>= next) machine = (second >>= after) machine := by
  simp only [bind, EStateM.bind, same]
  cases run : second machine with
  | ok answer reached => exact rest answer reached run
  | error reason reached => rfl

theorem toList_of_pop {word : Word} (run : pop machine = .ok word popped) :
    machine.frame.stack.toList = word :: popped.frame.stack.toList ∧
      popped.journal = machine.journal ∧ popped.frame.context = machine.frame.context := by
  obtain ⟨stack, taken, rfl⟩ := ok_of_onStack run
  exact ⟨Stack.toList_of_pop taken, rfl, rfl⟩

theorem toList_of_popAddress (run : popAddress machine = .ok address popped) :
    ∃ word, address = Address.ofWord word ∧
      machine.frame.stack.toList = word :: popped.frame.stack.toList ∧
      popped.journal = machine.journal := by
  cases taken : pop machine with
  | ok word after =>
    simp only [popAddress, bind, EStateM.bind, taken] at run
    cases run
    obtain ⟨same, kept, _⟩ := toList_of_pop taken
    exact ⟨word, rfl, same, kept⟩
  | error reason after =>
    simp only [popAddress, bind, EStateM.bind, taken] at run
    cases run

theorem getElem?_of_popMany {count : Nat} {words : Vector Word count}
    (run : popMany count machine = .ok words popped) :
    (∀ place : Fin count, machine.frame.stack.toList[place.val]? = some (words.get place)) ∧
      popped.journal = machine.journal ∧ popped.frame.context = machine.frame.context := by
  obtain ⟨stack, taken, rfl⟩ := ok_of_onStack run
  exact ⟨Stack.getElem?_of_popMany taken, rfl, rfl⟩

theorem eq_of_require {condition : Bool} {reason : Halt} {answer : Unit}
    (run : require condition reason machine = .ok answer popped) : popped = machine := by
  rw [require] at run
  split at run
  · cases run
    rfl
  · cases run

theorem eq_of_useGas {amount : Nat} {answer : Unit}
    (run : useGas amount machine = .ok answer popped) :
    popped = { machine with frame := { machine.frame with gas := machine.frame.gas - amount } } := by
  rw [useGas] at run
  split at run
  · cases run
  · cases run
    rfl

theorem accessAccount_of_isWarm (priced : rules.PricesAccesses)
    (warm : machine.journal.isWarm address = true) :
    accessAccount rules address machine = useGas (rules.amount .warmStorageRead) machine := by
  simp only [accessAccount, priced.accounts, if_true, bind, EStateM.bind, askJournal,
    Journal.warmAccount_of_isWarm warm, Gas.access, Bool.false_eq_true, if_false]

theorem accessBeneficiary_of_isWarm (priced : rules.PricesAccesses)
    (warm : machine.journal.isWarm address = true) :
    accessBeneficiary rules address machine = .ok () machine := by
  simp only [accessBeneficiary, priced.accounts, if_true, bind, EStateM.bind, askJournal,
    Journal.warmAccount_of_isWarm warm, Bool.false_eq_true, if_false]
  rfl

theorem warmSlot_of_contains (warm : machine.journal.warmSlots.contains (address, key) = true) :
    askJournal (·.warmSlot address key) machine = .ok false machine := by
  simp only [askJournal, Journal.warmSlot_of_contains warm]

/-- Two actions do the same wherever an account is warm. -/
def AgreeWhereWarm (address : Address) (first second : Exec α) : Prop :=
  ∀ machine : Machine, machine.journal.isWarm address = true → first machine = second machine

section Composition

variable {next after : α → Exec β}

theorem agree_bind (rules : Rules) {action : Exec α} (composed : Composed rules .frugal action)
    (rest : ∀ answer, AgreeWhereWarm address (next answer) (after answer)) :
    AgreeWhereWarm address (action >>= next) (action >>= after) := by
  intro machine warm
  apply bind_congr_at rfl
  intro answer reached run
  have follows := (follows rules composed machine).of_run run
  exact rest answer reached (follows.warm.accounts address warm)

theorem agree_ite_bind (rules : Rules) {condition : Prop} [Decidable condition]
    {yes no : Exec α} (whenTrue : Composed rules .frugal yes) (whenFalse : Composed rules .frugal no)
    (rest : ∀ answer, AgreeWhereWarm address (next answer) (after answer)) :
    AgreeWhereWarm address (if condition then yes >>= next else no >>= next)
      (if condition then yes >>= after else no >>= after) := by
  split
  · exact agree_bind rules whenTrue rest
  · exact agree_bind rules whenFalse rest

theorem agree_when_bind (rules : Rules) {condition : Prop} [Decidable condition]
    {action : Exec Unit} {next after : Exec β} (made : Composed rules .frugal action)
    (rest : AgreeWhereWarm address next after) :
    AgreeWhereWarm address (if condition then action >>= fun _ => next else next)
      (if condition then action >>= fun _ => after else after) := by
  split
  · exact agree_bind rules made fun _ => rest
  · exact rest

end Composition

section Instructions

variable (account slot : UInt64)

theorem accessAccount_withColdPrices (priced : rules.PricesAccesses)
    (warm : machine.journal.isWarm address = true) :
    accessAccount (rules.withColdPrices account slot) address machine =
      accessAccount rules address machine := by
  have others : (rules.withColdPrices account slot).PricesAccesses :=
    Rules.pricesAccesses_withColdPrices account slot
  rw [accessAccount_of_isWarm others warm, accessAccount_of_isWarm priced warm,
    Rules.amount_withColdPrices account slot (by decide) (by decide)]

theorem readAccount_withColdPrices (priced : rules.PricesAccesses)
    (read : Journal → Address → Word)
    (warm : ∀ access ∈ machine.frame.stack.toList[0]?.map Access.named,
      access.isWarm machine.journal = true) :
    readAccount (rules.withColdPrices account slot) read machine =
      readAccount rules read machine := by
  apply bind_congr_at rfl
  intro address aimed pops
  obtain ⟨word, named, operands, same⟩ := toList_of_popAddress pops
  have reached : aimed.journal.isWarm address = true := by
    rw [same, named]
    exact warm (.named word) (by rw [operands]; rfl)
  exact bind_congr_at (accessAccount_withColdPrices account slot priced reached) fun _ _ _ => rfl

theorem copyExternalCode_withColdPrices (priced : rules.PricesAccesses)
    (warm : ∀ access ∈ machine.frame.stack.toList[0]?.map Access.named,
      access.isWarm machine.journal = true) :
    copyExternalCode (rules.withColdPrices account slot) machine = copyExternalCode rules machine := by
  apply bind_congr_at rfl
  intro address aimed pops
  obtain ⟨word, named, operands, same⟩ := toList_of_popAddress pops
  apply bind_congr_at rfl
  intro range ready takes
  have reached : ready.journal.isWarm address = true := by
    apply ((follows rules .popThree aimed).of_run takes).warm.accounts
    rw [same, named]
    exact warm (.named word) (by rw [operands]; rfl)
  apply bind_congr_at (accessAccount_withColdPrices account slot priced reached)
  intro _ accessed _
  simp

theorem loadStorage_withColdPrices (priced : rules.PricesAccesses)
    (warm : ∀ access ∈ machine.frame.stack.toList[0]?.map (Access.slot machine.frame.context.address),
      access.isWarm machine.journal = true) :
    loadStorage (rules.withColdPrices account slot) machine = loadStorage rules machine := by
  apply bind_congr_at rfl
  intro key ready pops
  obtain ⟨operands, same, context⟩ := toList_of_pop pops
  have reached : ready.journal.warmSlots.contains (ready.frame.context.address, key) = true := by
    rw [same, context]
    exact warm (.slot machine.frame.context.address key) (by rw [operands]; rfl)
  have others : (rules.withColdPrices account slot).PricesAccesses :=
    Rules.pricesAccesses_withColdPrices account slot
  apply bind_congr_at rfl
  intro context running asks
  cases asks
  simp only [others.slots, priced.slots, if_true]
  apply bind_congr_at rfl
  intro cold warmed asks
  rw [warmSlot_of_contains reached] at asks
  cases asks
  simp [Gas.access, others.slots, priced.slots]

theorem storeStorage_withColdPrices (priced : rules.PricesAccesses)
    (warm : ∀ access ∈ machine.frame.stack.toList[0]?.map (Access.slot machine.frame.context.address),
      access.isWarm machine.journal = true) :
    storeStorage (rules.withColdPrices account slot) machine = storeStorage rules machine := by
  have others : (rules.withColdPrices account slot).PricesAccesses :=
    Rules.pricesAccesses_withColdPrices account slot
  apply bind_congr_at rfl
  intro _ mutable checks
  apply bind_congr_at rfl
  intro operands ready takes
  obtain ⟨named, same, context⟩ := getElem?_of_popMany takes
  rw [eq_of_require checks] at named same context
  have reached : ready.journal.warmSlots.contains (ready.frame.context.address, operands[0]) =
      true := by
    have top : machine.frame.stack.toList[0]? = some operands[0] := named 0
    rw [same, context]
    exact warm (.slot machine.frame.context.address operands[0]) (by rw [top]; rfl)
  apply bind_congr_at rfl
  intro remaining _ asks
  cases asks
  rw [Rules.value_withColdPrices account slot (by decide) (by decide)]
  apply bind_congr_at rfl
  intro _ allowed checks
  rw [eq_of_require checks]
  apply bind_congr_at rfl
  intro context _ asks
  cases asks
  simp only [others.slots, priced.slots, if_true]
  apply bind_congr_at rfl
  intro cold warmed asks
  rw [warmSlot_of_contains reached] at asks
  cases asks
  simp

theorem selfdestruct_withColdPrices (priced : setting.rules.PricesAccesses)
    (warm : ∀ access ∈ machine.frame.stack.toList[0]?.map Access.named,
      access.isWarm machine.journal = true) :
    selfdestruct (setting.withColdPrices account slot) machine = selfdestruct setting machine := by
  have others : (setting.rules.withColdPrices account slot).PricesAccesses :=
    Rules.pricesAccesses_withColdPrices account slot
  apply bind_congr_at rfl
  intro _ mutable checks
  apply bind_congr_at rfl
  intro beneficiary aimed aims
  obtain ⟨word, named, operands, same⟩ := toList_of_popAddress aims
  apply bind_congr_at rfl
  intro context _ asks
  cases asks
  have reached : aimed.journal.isWarm beneficiary = true := by
    rw [same, eq_of_require checks, named]
    exact warm (.named word) (by rw [← eq_of_require checks, operands]; rfl)
  simp [Setting.withColdPrices, bind, EStateM.bind, accessBeneficiary_of_isWarm others reached,
    accessBeneficiary_of_isWarm priced reached]

theorem call_withColdPrices (priced : setting.rules.PricesAccesses) (scheme : CallScheme)
    (warm : ∀ access ∈ machine.frame.stack.toList[1]?.map Access.named,
      access.isWarm machine.journal = true) :
    call (setting.withColdPrices account slot) scheme machine = call setting scheme machine := by
  apply bind_congr_at rfl
  intro requested popped pops
  obtain ⟨above, kept, _⟩ := toList_of_pop pops
  apply bind_congr_at rfl
  intro target aimed aims
  obtain ⟨word, named, below, same⟩ := toList_of_popAddress aims
  have reached : aimed.journal.isWarm target = true := by
    rw [same, kept, named]
    exact warm (.named word) (by rw [above, below]; rfl)
  simp only [Setting.withColdPrices, memoryRange_withColdPrices]
  refine agree_ite_bind setting.rules .pop (.pure _) ?_ aimed reached
  intro value
  apply agree_bind setting.rules (.popMany 4)
  intro ranges
  apply agree_when_bind setting.rules .requireNonStatic
  apply agree_bind setting.rules (.memoryRange _ _)
  intro input
  apply agree_bind setting.rules (.memoryRange _ _)
  intro output machine warm
  apply bind_congr_at (accessAccount_withColdPrices account slot priced warm)
  intro _ accessed _
  simp

theorem recentBlockHash_withColdPrices :
    recentBlockHash (setting.withColdPrices account slot) = recentBlockHash setting := by
  funext requested
  simp [recentBlockHash, Setting.withColdPrices]

theorem execute_withColdPrices (priced : setting.rules.PricesAccesses) {opcode : Opcode}
    (warm : ∀ access ∈ opcode.access? machine.frame.context machine.frame.stack.toList,
      access.isWarm machine.journal = true) :
    execute (setting.withColdPrices account slot) opcode machine =
      execute setting opcode machine := by
  cases opcode with
  | balance | extcodesize | extcodehash =>
    exact bind_congr_at (readAccount_withColdPrices account slot priced _ warm) fun _ _ _ => rfl
  | extcodecopy =>
    exact bind_congr_at (copyExternalCode_withColdPrices account slot priced warm)
      fun _ _ _ => rfl
  | sload =>
    exact bind_congr_at (loadStorage_withColdPrices account slot priced warm) fun _ _ _ => rfl
  | sstore =>
    exact bind_congr_at (storeStorage_withColdPrices account slot priced warm)
      fun _ _ _ => rfl
  | call | callcode | delegatecall | staticcall =>
    exact call_withColdPrices account slot priced _ warm
  | selfdestruct => exact selfdestruct_withColdPrices account slot priced warm
  | exp => simp [execute, Setting.withColdPrices, exponentiate, Gas.exponent]
  | keccak256 => simp [execute, Setting.withColdPrices, hash]
  | calldatacopy | codecopy => simp [execute, Setting.withColdPrices, copyToMemory]
  | returndatacopy => simp [execute, Setting.withColdPrices, copyReturnData]
  | mcopy => simp [execute, Setting.withColdPrices, copyMemory]
  | blockhash => simp only [execute, recentBlockHash_withColdPrices]
  | prevrandao | mload | mstore | mstore8 => simp [execute, Setting.withColdPrices]
  | log topics => simp [execute, Setting.withColdPrices, emitLog, Gas.logData]
  | create | create2 => simp [execute, Setting.withColdPrices, create, Gas.initCode, Gas.forCreate]
  | ret | revert => simp [execute, Setting.withColdPrices, memoryOutput]
  | _ => rfl

theorem step_withColdPrices (priced : setting.rules.PricesAccesses)
    (warm : ∀ access ∈ machine.access?, access.isWarm machine.journal = true) :
    step (setting.withColdPrices account slot) machine = step setting machine := by
  apply bind_congr_at rfl
  intro current _ asks
  cases asks
  cases next : machine.frame.code.bytes[machine.frame.position]? with
  | none => rfl
  | some byte =>
    have price : (setting.withColdPrices account slot).rules.opcodeGas byte =
        setting.rules.opcodeGas byte := Rules.opcodeGas_withColdPrices account slot byte
    simp only [price]
    cases setting.rules.opcodeGas byte with
    | none => rfl
    | some price =>
      cases named : Opcode.ofByte? byte with
      | none => rfl
      | some opcode =>
        apply bind_congr_at rfl
        intro _ paid pays
        apply bind_congr_at rfl
        intro _ moved moves
        cases moves
        apply execute_withColdPrices account slot priced
        intro access accessed
        rw [eq_of_useGas pays] at accessed ⊢
        exact warm access (by simpa [Machine.access?, next, named] using accessed)

end Instructions

end Exec

end Evm

end StateTransition
