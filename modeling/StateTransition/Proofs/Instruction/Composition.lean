import StateTransition.Evm.FrameStack

/-!
Instructions as compositions of small steps. What is shown of the steps and passes to their
composition holds of every instruction, by induction on the way it is put together.
-/

namespace StateTransition.Evm

/-- What an action may do beside taking operands, paying, growing memory and warming what it
accesses. -/
structure Powers where
  pushes : Bool
  redirects : Bool
  writes : Bool
  copies : Bool

def Powers.readOnly : Powers := ⟨true, true, false, true⟩

namespace Opcode

def requests : Opcode → Bool
  | .call | .callcode | .delegatecall | .staticcall | .create | .create2 => true
  | _ => false

def redirects : Opcode → Bool
  | .push _ | .jump | .jumpi => true
  | _ => false

def writes : Opcode → Bool
  | .sstore | .tstore | .log _ | .selfdestruct => true
  | _ => false

def copies : Opcode → Bool
  | .keccak256 | .calldatacopy | .codecopy | .extcodecopy | .returndatacopy | .mload | .mstore
  | .mstore8 | .mcopy | .log _ | .ret | .revert => true
  | opcode => opcode.requests

def powers (opcode : Opcode) : Powers :=
  ⟨!opcode.requests, opcode.redirects, opcode.writes, opcode.copies⟩

end Opcode

namespace Exec

/-- Actions that are put together from small steps within some powers. Of a journal they read
anything but the list of its changes. -/
inductive Composed (rules : Rules) (powers : Powers) : {α : Type} → Exec α → Prop where
  | pure {α : Type} (answer : α) : Composed rules powers (pure answer : Exec α)
  | throw {α : Type} {reason : Halt} (other : reason ≠ .memoryFault) :
      Composed rules powers (throw reason : Exec α)
  | bind {α β : Type} {action : Exec α} {next : α → Exec β} (first : Composed rules powers action)
      (rest : ∀ answer, Composed rules powers (next answer)) :
      Composed rules powers (action >>= next)
  | readJournal {α : Type} {next : Journal → Exec α}
      (blind : ∀ journal changes, next { journal with changes } = next journal)
      (rest : ∀ journal, Composed rules powers (next journal)) :
      Composed rules powers (journal >>= next)
  | frame : Composed rules powers frame
  | context : Composed rules powers context
  | gas : Composed rules powers gas
  | require (condition : Bool) {reason : Halt} (other : reason ≠ .memoryFault) :
      Composed rules powers (require condition reason)
  | loadWord (offset : Nat) (allowed : powers.copies = true) :
      Composed rules powers (loadWord offset)
  | readBytes (offset size : Nat) (allowed : powers.copies = true) :
      Composed rules powers (readBytes offset size)
  | writeBytes (offset : Nat) (data : Bytes) (allowed : powers.copies = true) :
      Composed rules powers (writeBytes offset data)
  | push (word : Word) (allowed : powers.pushes = true) : Composed rules powers (push word)
  | dup (depth : Nat) (allowed : powers.pushes = true) : Composed rules powers (dup depth)
  | swap (depth : Nat) : Composed rules powers (swap depth)
  | pop : Composed rules powers pop
  | popMany (count : Nat) : Composed rules powers (popMany count)
  | popEach (count : Nat) : Composed rules powers (popEach count)
  | useGas (amount : Nat) : Composed rules powers (useGas amount)
  | memoryRange (offset size : Word) : Composed rules powers (memoryRange rules offset size)
  | forget : Composed rules powers (modifyFrame ({ · with returnData := [] }))
  | skip (size : Nat) (allowed : powers.redirects = true) :
      Composed rules powers (modifyFrame fun frame =>
        { frame with position := frame.position + size })
  | jump (destination : Word) (allowed : powers.redirects = true) :
      Composed rules powers (jump destination)
  | warmAccount (address : Address) : Composed rules powers (askJournal (·.warmAccount address))
  | warmSlot (address : Address) (key : Word) :
      Composed rules powers (askJournal (·.warmSlot address key))
  | store (refund : Int) (address : Address) (key value : Word) (allowed : powers.writes = true) :
      Composed rules powers
        (modifyJournal fun journal => (journal.addRefund refund).setSlot address key value)
  | storeTransient (address : Address) (key value : Word) (allowed : powers.writes = true) :
      Composed rules powers (modifyJournal (·.setTransientSlot address key value))
  | emit (log : Log) (allowed : powers.writes = true) :
      Composed rules powers (modifyJournal (·.emit log))
  | close (address beneficiary : Address) (allowed : powers.writes = true) :
      Composed rules powers (modifyJournal (closeAccount rules address beneficiary))

namespace Composed

variable {α β : Type} {rules : Rules} {setting : Setting} {powers : Powers}

theorem map {action : Exec α} (change : α → β) (composed : Composed rules powers action) :
    Composed rules powers (change <$> action) := by
  rw [← bind_pure_comp]
  exact .bind composed fun answer => .pure _

theorem ite {condition : Prop} [Decidable condition] {yes no : Exec α}
    (whenTrue : Composed rules powers yes) (whenFalse : Composed rules powers no) :
    Composed rules powers (if condition then yes else no) := by
  split
  · exact whenTrue
  · exact whenFalse

theorem ite_bind {condition : Prop} [Decidable condition] {yes no : Exec α} {next : α → Exec β}
    (whenTrue : Composed rules powers yes) (whenFalse : Composed rules powers no)
    (rest : ∀ answer, Composed rules powers (next answer)) :
    Composed rules powers (if condition then yes >>= next else no >>= next) :=
  .ite (.bind whenTrue rest) (.bind whenFalse rest)

theorem when_bind {condition : Prop} [Decidable condition] {action : Exec α} {next : Exec β}
    (made : Composed rules powers action) (rest : Composed rules powers next) :
    Composed rules powers (if condition then action >>= fun _ => next else next) :=
  .ite (.bind made fun _ => rest) rest

theorem popThree : Composed rules powers popThree :=
  .bind (.popMany 3) fun _ => .pure _

theorem popAddress : Composed rules powers popAddress := .bind .pop fun _ => .pure _

theorem requireNonStatic : Composed rules powers requireNonStatic :=
  .bind .context fun _ => .require _ (by decide)

theorem accessAccount (address : Address) :
    Composed rules powers (accessAccount rules address) :=
  .ite (.bind (.warmAccount address) fun _ => .useGas _) (.pure _)

theorem proceed {action : Exec Unit} (composed : Composed rules powers action) :
    Composed rules powers (proceed action) :=
  .bind composed fun _ => .pure _

theorem unary (operation : Word → Word) (pushes : powers.pushes = true) :
    Composed rules powers (unary operation) :=
  .bind .pop fun _ => .push _ pushes

theorem binary (operation : Word → Word → Word) (pushes : powers.pushes = true) :
    Composed rules powers (binary operation) :=
  .bind (.popMany 2) fun _ => .push _ pushes

theorem ternary (operation : Word → Word → Word → Word) (pushes : powers.pushes = true) :
    Composed rules powers (ternary operation) :=
  .bind .popThree fun _ => .push _ pushes

theorem exponentiate (pushes : powers.pushes = true) :
    Composed rules powers (exponentiate rules) := by
  apply bind (.popMany 2)
  intro operands
  exact .bind (.useGas _) fun _ => .push _ pushes

theorem hash (pushes : powers.pushes = true) (copies : powers.copies = true) :
    Composed rules powers (hash rules) := by
  apply bind (.popMany 2)
  intro range
  apply bind (.memoryRange _ _)
  intro memory
  apply bind (.useGas _)
  intro _
  exact .bind (.readBytes _ _ copies) fun _ => .push _ pushes

theorem copyToMemory (source : Bytes) (copies : powers.copies = true) :
    Composed rules powers (copyToMemory rules source) := by
  apply bind .popThree
  intro operands
  apply bind (.memoryRange _ _)
  intro memory
  exact .bind (.useGas _) fun _ => .writeBytes _ _ copies

theorem readAccount {read : Journal → Address → Word}
    (blind : ∀ journal changes, read { journal with changes } = read journal)
    (pushes : powers.pushes = true) : Composed rules powers (readAccount rules read) := by
  apply bind .popAddress
  intro address
  apply bind (.accessAccount address)
  intro _
  refine .readJournal (fun journal changes => ?_) fun journal => .push _ pushes
  rw [blind]

theorem copyExternalCode (copies : powers.copies = true) :
    Composed rules powers (copyExternalCode rules) := by
  apply bind .popAddress
  intro address
  apply bind .popThree
  intro operands
  apply bind (.accessAccount address)
  intro _
  apply bind (.memoryRange _ _)
  intro memory
  apply bind (.useGas _)
  intro _
  exact .readJournal (fun _ _ => rfl) fun _ => .writeBytes _ _ copies

theorem copyReturnData (copies : powers.copies = true) :
    Composed rules powers (copyReturnData rules) := by
  apply bind .popThree
  intro operands
  apply bind .frame
  intro frame
  apply bind (.require _ (by decide))
  intro _
  apply bind (.memoryRange _ _)
  intro memory
  exact .bind (.useGas _) fun _ => .writeBytes _ _ copies

theorem copyMemory (copies : powers.copies = true) : Composed rules powers (copyMemory rules) := by
  apply bind .popThree
  intro operands
  apply bind (.memoryRange _ _)
  intro target
  apply bind (.memoryRange _ _)
  intro source
  apply bind (.useGas _)
  intro _
  exact .bind (.readBytes _ _ copies) fun _ => .writeBytes _ _ copies

theorem memoryOutput (copies : powers.copies = true) :
    Composed rules powers (memoryOutput rules) := by
  apply bind (.popMany 2)
  intro range
  exact .bind (.memoryRange _ _) fun _ => .readBytes _ _ copies

theorem pushOperand (size : Nat) (pushes : powers.pushes = true)
    (redirects : powers.redirects = true) : Composed rules powers (pushOperand size) := by
  apply bind .frame
  intro current
  exact .bind (.push _ pushes) fun _ => .skip size redirects

theorem loadStorage (pushes : powers.pushes = true) :
    Composed rules powers (loadStorage rules) := by
  apply bind .pop
  intro key
  apply bind .context
  intro context
  have read : Composed rules powers
      (do Exec.push ((← journal).slot context.address key) : Exec Unit) :=
    .readJournal (fun _ _ => rfl) fun _ => .push _ pushes
  refine .ite ?_ read
  exact .bind (.warmSlot _ _) fun _ => .bind (.useGas _) fun _ => read

theorem storeStorage (writes : powers.writes = true) :
    Composed rules powers (storeStorage rules) := by
  apply bind .requireNonStatic
  intro _
  apply bind (.popMany 2)
  intro operands
  apply bind .gas
  intro remaining
  apply bind (.require _ (by decide))
  intro _
  apply bind .context
  intro context
  apply ite_bind (.warmSlot _ _) (.pure false)
  intro cold
  apply readJournal fun _ _ => rfl
  intro journal
  exact .bind (.useGas _) fun _ => .store _ _ _ _ writes

theorem storesTransient (writes : powers.writes = true) :
    Composed rules powers Exec.storeTransient := by
  apply bind .requireNonStatic
  intro _
  apply bind (.popMany 2)
  intro operands
  exact .bind .context fun _ => .storeTransient _ _ _ writes

theorem emitLog (topicCount : Nat) (writes : powers.writes = true) (copies : powers.copies = true) :
    Composed rules powers (emitLog rules topicCount) := by
  apply bind .requireNonStatic
  intro _
  apply bind (.popMany 2)
  intro range
  apply bind (.popEach topicCount)
  intro topics
  apply bind (.memoryRange _ _)
  intro memory
  apply bind (.useGas _)
  intro _
  apply bind (.readBytes _ _ copies)
  intro data
  exact .bind .context fun _ => .emit _ writes

theorem accessBeneficiary (beneficiary : Address) :
    Composed rules powers (accessBeneficiary rules beneficiary) :=
  .ite (.bind (.warmAccount _) fun _ => .ite (.useGas _) (.pure _)) (.pure _)

theorem payForBeneficiary (address beneficiary : Address) :
    Composed rules powers (payForBeneficiary rules address beneficiary) :=
  .readJournal (fun _ _ => rfl) fun _ => .ite (.useGas _) (.pure _)

theorem selfdestruct (writes : powers.writes = true) :
    Composed setting.rules powers (selfdestruct setting) := by
  apply bind .requireNonStatic
  intro _
  apply bind .popAddress
  intro beneficiary
  apply bind .context
  intro context
  apply bind (.accessBeneficiary beneficiary)
  intro _
  apply bind (.payForBeneficiary context.address beneficiary)
  intro _
  exact .bind (.close _ _ writes) fun _ => .pure _

theorem call (scheme : CallScheme) (copies : powers.copies = true) :
    Composed setting.rules powers (call setting scheme) := by
  apply bind .pop
  intro requested
  apply bind .popAddress
  intro target
  apply ite_bind .pop (.pure _)
  intro value
  apply bind (.popMany 4)
  intro ranges
  apply when_bind .requireNonStatic
  apply bind (.memoryRange _ _)
  intro input
  apply bind (.memoryRange _ _)
  intro output
  apply bind (.accessAccount target)
  intro _
  apply readJournal fun _ _ => rfl
  intro journal
  apply bind (.useGas _)
  intro _
  apply bind .gas
  intro available
  cases Gas.forCall setting.rules requested available with
  | none => exact .throw (by decide)
  | some handed =>
    apply bind (.useGas handed)
    intro _
    apply bind .context
    intro context
    apply bind .forget
    intro _
    exact .bind (.readBytes _ _ copies) fun _ => .pure _

theorem create (salted : Bool) (copies : powers.copies = true) :
    Composed setting.rules powers (create setting salted) := by
  apply bind .requireNonStatic
  intro _
  apply bind .popThree
  intro operands
  apply ite_bind (.map _ .pop) (.pure _)
  intro salt
  apply bind (.memoryRange _ _)
  intro memory
  apply bind (.require _ (by decide))
  intro _
  apply bind (.useGas _)
  intro _
  apply when_bind (.useGas _)
  apply bind .gas
  intro available
  apply bind (.useGas _)
  intro _
  apply bind .forget
  intro _
  exact .bind (.readBytes _ _ copies) fun _ => .bind .context fun _ => .pure _

theorem execute (opcode : Opcode) :
    Composed setting.rules opcode.powers (execute setting opcode) := by
  cases opcode with
  | stop | jumpdest => exact .pure _
  | invalid => exact .throw (by decide)
  | add | mul | sub | div | sdiv | mod | smod | signextend | and | or | xor | byte | shl | shr | sar
  | lt | gt | slt | sgt | eq => exact .proceed (.binary _ rfl)
  | addmod | mulmod => exact .proceed (.ternary _ rfl)
  | iszero | not | blockhash | blobhash => exact .proceed (.unary _ rfl)
  | exp => exact .proceed (.exponentiate rfl)
  | keccak256 => exact .proceed (.hash rfl rfl)
  | address | caller | callvalue | calldatasize =>
    exact .proceed (.bind .context fun _ => .push _ rfl)
  | codesize | returndatasize | pc | msize => exact .proceed (.bind .frame fun _ => .push _ rfl)
  | gas => exact .proceed (.bind .gas fun _ => .push _ rfl)
  | origin | gasprice | coinbase | timestamp | number | prevrandao | gaslimit | chainid | basefee
  | blobbasefee => exact .proceed (.push _ rfl)
  | balance | extcodesize | extcodehash => exact .proceed (.readAccount (fun _ _ => rfl) rfl)
  | calldataload =>
    exact .proceed (.bind .pop fun _ => .bind .context fun _ => .push _ rfl)
  | calldatacopy => exact .proceed (.bind .context fun _ => .copyToMemory _ rfl)
  | codecopy => exact .proceed (.bind .frame fun _ => .copyToMemory _ rfl)
  | extcodecopy => exact .proceed (.copyExternalCode rfl)
  | returndatacopy => exact .proceed (.copyReturnData rfl)
  | selfbalance =>
    exact .proceed (.readJournal (fun _ _ => rfl) fun _ => .bind .context fun _ => .push _ rfl)
  | pop => exact .proceed (.bind .pop fun _ => .pure _)
  | mload =>
    refine .proceed (.bind .pop fun _ => ?_)
    apply bind (.memoryRange _ _)
    intro memory
    exact .bind (.loadWord _ rfl) fun _ => .push _ rfl
  | mstore | mstore8 =>
    refine .proceed (.bind (.popMany 2) fun operands => ?_)
    exact .bind (.memoryRange _ _) fun _ => .writeBytes _ _ rfl
  | sload => exact .proceed (.loadStorage rfl)
  | sstore => exact .proceed (.storeStorage rfl)
  | jump => exact .proceed (.bind .pop fun _ => .jump _ rfl)
  | jumpi =>
    refine .proceed (.bind (.popMany 2) fun operands => ?_)
    exact .ite (.jump _ rfl) (.pure _)
  | tload =>
    refine .proceed (.bind .pop fun _ => ?_)
    exact .readJournal (fun _ _ => rfl) fun _ => .bind .context fun _ => .push _ rfl
  | tstore => exact .proceed (.storesTransient rfl)
  | mcopy => exact .proceed (.copyMemory rfl)
  | push size => exact .proceed (.pushOperand size.val rfl rfl)
  | dup depth => exact .proceed (.dup _ rfl)
  | swap depth => exact .proceed (.swap _)
  | log topics => exact .proceed (.emitLog _ rfl rfl)
  | create => exact .create false rfl
  | create2 => exact .create true rfl
  | call => exact .call .call rfl
  | callcode => exact .call .callCode rfl
  | delegatecall => exact .call .delegateCall rfl
  | staticcall => exact .call .staticCall rfl
  | ret | revert => exact .bind (.memoryOutput rfl) fun _ => .pure _
  | selfdestruct => exact .selfdestruct rfl

end Composed

end Exec

end StateTransition.Evm
