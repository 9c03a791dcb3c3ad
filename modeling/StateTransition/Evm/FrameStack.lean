import StateTransition.Evm.ContractAddress
import StateTransition.Evm.Instruction
import StateTransition.Evm.Precompile

/-!
Frames on top of each other. A frame that asks for a child waits until the child is done; a frame
that fails takes the journal back to where it was when the frame was entered.
-/

namespace StateTransition.Evm

inductive FrameKind where
  | call (returnOffset returnSize : Nat)
  | create (address : Address)
  deriving DecidableEq, Repr

structure Activation where
  frame : Frame
  kind : FrameKind
  checkpoint : Checkpoint

inductive Entry where
  | run (activation : Activation)
  | done (kind : FrameKind) (result : FrameResult)

inductive Action where
  | call (request : CallRequest)
  | create (request : CreateRequest)
  | finish (result : FrameResult)
  | overflow
  deriving DecidableEq, Repr

def Machine.advance (setting : Setting) (machine : Machine) : Option Action × Machine :=
  match Exec.step setting machine with
  | .ok .next machine => (none, machine)
  | .ok .stop machine => (some (.finish (.success machine.frame.gas [])), machine)
  | .ok (.finish output) machine =>
    (some (.finish (.success machine.frame.gas output)), machine)
  | .ok (.revert output) machine => (some (.finish (.revert machine.frame.gas output)), machine)
  | .ok (.call request) machine => (some (.call request), machine)
  | .ok (.create request) machine => (some (.create request), machine)
  | .error reason machine => (some (.finish (.halt reason)), machine)

/-- One instruction, which stops everything where it takes the refund counter out of its range. -/
def Machine.step (setting : Setting) (machine : Machine) : Option Action × Machine :=
  let (action, after) := machine.advance setting
  (if after.journal.refundFits then action else some .overflow, after)

/-- Runs one frame to its next action, for at most `steps` instructions; the last part counts the
attempts, the one that was refused included. -/
def Machine.run (setting : Setting) : (steps : Nat) → Machine → (ticks : Nat) →
    Option Action × Machine × Nat
  | 0, machine, ticks => (none, machine, ticks + 1)
  | steps + 1, machine, ticks =>
    match machine.step setting with
    | (some action, machine) => (some action, machine, ticks + 1)
    | (none, machine) => Machine.run setting steps machine (ticks + 1)

def depthExceeded (rules : Rules) (depth : Nat) : Bool := rules.amount .callDepthLimit < depth

def payCallee (journal : Journal) (request : CallRequest) : Journal :=
  if request.transfers then journal.move request.caller request.address request.value
  else journal.touch request.address

def enterCode (journal : Journal) (request : CallRequest) (kind : FrameKind)
    (checkpoint : Checkpoint) : Entry × Journal :=
  match Precompile.at? request.codeAddress with
  | some contract =>
    match contract.run request.input request.gas with
    | .ok (used, output) => (.done kind (.success (request.gas - used) output), journal)
    | .error reason => (.done kind (.halt reason), journal.revert checkpoint)
  | none =>
    match journal.code request.codeAddress with
    | [] => (.done kind (.success request.gas []), journal)
    | code => (.run ⟨Frame.start request.context code request.gas, kind, checkpoint⟩, journal)

/-- Whether a call changes nothing: without value, to an account that is missing, where empty
accounts are cleaned up. -/
def isIdle (rules : Rules) (journal : Journal) (request : CallRequest) : Bool :=
  !journal.contains request.address && rules.isActive .emptyAccountCleanup &&
    request.value.isZero && (Precompile.at? request.codeAddress).isNone

def refusesCall (rules : Rules) (journal : Journal) (request : CallRequest) : Bool :=
  depthExceeded rules request.depth ||
    (request.transfers && journal.cannotPay request.caller request.value)

/-- A refused call gives its gas back. -/
def startCall (setting : Setting) (journal : Journal) (request : CallRequest) : Entry × Journal :=
  let kind := FrameKind.call request.returnOffset request.returnSize
  if refusesCall setting.rules journal request then
    (.done kind (.revert request.gas []), journal)
  else if isIdle setting.rules journal request then
    (.done kind (.success request.gas []), journal)
  else
    let checkpoint := journal.checkpoint
    enterCode (payCallee (journal.ensure request.address) request) request kind checkpoint

def warmTarget (rules : Rules) (journal : Journal) (address : Address) : Journal :=
  if rules.defines .coldAccountAccess then (journal.warmAccount address).2 else journal

def isOccupied (journal : Journal) (address : Address) : Bool :=
  (journal.account? address).any fun account => account.nonce != 0 || account.hasCode

def freshNonce (rules : Rules) : UInt64 := if rules.isActive .emptyAccountCleanup then 1 else 0

/-- Enters a creation at an address that must have neither code nor a nonce. -/
def enterCreate (setting : Setting) (journal : Journal) (request : CreateRequest)
    (address : Address) : Entry × Journal :=
  let kind := FrameKind.create address
  let rules := setting.rules
  let warmed := warmTarget rules journal address
  if isOccupied warmed address then (.done kind (.halt .createCollision), warmed)
  else
    let checkpoint := warmed.checkpoint
    let created := warmed.createAccount address (freshNonce rules)
    if created.cannotPay request.caller request.value then
      (.done kind (.revert request.gas []), created.revert checkpoint)
    else
      let endowed := created.move request.caller address request.value
      match request.initCode with
      | [] => (.done kind (.success request.gas []), endowed)
      | code =>
        (.run ⟨Frame.start (request.context address) code request.gas, kind, checkpoint⟩, endowed)

/-- Whether a creation is too deep, cannot be paid, or its creator's nonce is used up. -/
def refusesCreate (rules : Rules) (journal : Journal) (request : CreateRequest) : Bool :=
  depthExceeded rules request.depth || journal.cannotPay request.caller request.value ||
    (journal.nonce request.caller).toNat + 1 == UInt64.size

def createTarget (journal : Journal) (request : CreateRequest) : Address :=
  match request.salt with
  | none => createAddress request.caller (journal.nonce request.caller)
  | some salt => saltedAddress request.caller salt request.initCode

def startCreate (setting : Setting) (journal : Journal) (request : CreateRequest) :
    Entry × Journal :=
  if refusesCreate setting.rules journal request then
    (.done (.create Address.zero) (.revert request.gas []), journal)
  else
    enterCreate setting (journal.bumpNonce request.caller) request (createTarget journal request)

inductive Attempt where
  | call (request : CallRequest)
  | create (request : CreateRequest)
  /-- The creation a transaction stands for, at an address that is known beforehand. -/
  | deploy (request : CreateRequest) (address : Address)
  deriving DecidableEq, Repr

def Attempt.enter (setting : Setting) (journal : Journal) : Attempt → Entry × Journal
  | .call request => startCall setting journal request
  | .create request => startCreate setting journal request
  | .deploy request address => enterCreate setting journal request address

/-- Installs the output of init code, if it is acceptable and paid for. Where an unpaid deposit is
no failure the account stays without code. -/
def depositCode (rules : Rules) (journal : Journal) (address : Address) (result : FrameResult) :
    FrameResult × Journal :=
  let code := result.output
  let price := Gas.codeDeposit rules code.length
  if rules.isActive .rejectEfCode && code.head? == some 0xef then
    (.halt .invalidCodePrefix, journal)
  else if (rules.value .maxCodeSize).any fun limit => limit.toNat < code.length then
    (.halt .maxCodeSizeExceeded, journal)
  else if result.gasLeft < price then
    if rules.isActive .createDepositOogFails then (.halt .outOfGas, journal)
    else (.success result.gasLeft [], journal)
  else (.success (result.gasLeft - price) code, journal.setCode address code)

/-- Settles a frame that is done; a failure undoes everything since it was entered. -/
def settle (rules : Rules) (journal : Journal) (kind : FrameKind) (checkpoint : Checkpoint)
    (result : FrameResult) : FrameResult × Journal :=
  let (settled, journal) :=
    match kind with
    | .create address =>
      if result.isSuccess then depositCode rules journal address result else (result, journal)
    | .call .. => (result, journal)
  (settled, if settled.isSuccess then journal else journal.revert checkpoint)

def Activation.resume? (parent : Activation) (kind : FrameKind) (result : FrameResult) :
    Option Activation :=
  match kind with
  | .call offset size =>
    (parent.frame.resumeCall? result offset size).map fun frame => { parent with frame }
  | .create address => some { parent with frame := parent.frame.resumeCreate result address }

/-- The frame that runs, the ones that wait for it with the nearest first, and how many
instructions were begun. -/
structure FrameStack where
  current : Activation
  parents : List Activation
  journal : Journal
  ticks : Nat

structure Completion where
  result : FrameResult
  journal : Journal
  ticks : Nat

/-- How a run ends: its first frame is done, or the refund counter has left its range. -/
inductive Ending where
  | finished (completion : Completion)
  | overflowed (ticks : Nat)

inductive Progress where
  | running (stack : FrameStack)
  | ended (ending : Ending)

namespace FrameStack

def resumeWith (waiting : Activation) (parents : List Activation) (kind : FrameKind)
    (result : FrameResult) (journal : Journal) (ticks : Nat) : Progress :=
  match waiting.resume? kind result with
  | some current => .running ⟨current, parents, journal, ticks⟩
  | none => .ended (.finished ⟨.halt .memoryFault, journal, ticks⟩)

def enter (parent : Activation) (parents : List Activation) (entry : Entry) (journal : Journal)
    (ticks : Nat) : Progress :=
  match entry with
  | .run child => .running ⟨child, parent :: parents, journal, ticks⟩
  | .done kind result => resumeWith parent parents kind result journal ticks

def machine (stack : FrameStack) : Machine := ⟨stack.current.frame, stack.journal⟩

def continued (stack : FrameStack) (after : Machine) : Activation :=
  { stack.current with frame := after.frame }

def follow (setting : Setting) (stack : FrameStack) : Option Action × Machine → Progress
  | (none, after) =>
    .running ⟨stack.continued after, stack.parents, after.journal, stack.ticks + 1⟩
  | (some (.call request), after) =>
    let (entry, journal) := startCall setting after.journal request
    enter (stack.continued after) stack.parents entry journal (stack.ticks + 1)
  | (some (.create request), after) =>
    let (entry, journal) := startCreate setting after.journal request
    enter (stack.continued after) stack.parents entry journal (stack.ticks + 1)
  | (some (.finish result), after) =>
    let ⟨_, kind, checkpoint⟩ := stack.current
    let (settled, journal) := settle setting.rules after.journal kind checkpoint result
    match stack.parents with
    | parent :: rest => resumeWith parent rest kind settled journal (stack.ticks + 1)
    | [] => .ended (.finished ⟨settled, journal, stack.ticks + 1⟩)
  | (some .overflow, _) => .ended (.overflowed (stack.ticks + 1))

def step (setting : Setting) (stack : FrameStack) : Progress :=
  stack.follow setting (stack.machine.step setting)

def run (setting : Setting) : (steps : Nat) → FrameStack → Option Ending
  | 0, _ => none
  | steps + 1, stack =>
    match stack.step setting with
    | .running stack => run setting steps stack
    | .ended ending => some ending

end FrameStack

def runEntry (setting : Setting) (steps : Nat) (entry : Entry) (journal : Journal) :
    Option Ending :=
  match entry with
  | .run activation => FrameStack.run setting steps ⟨activation, [], journal, 0⟩
  | .done _ result => some (.finished ⟨result, journal, 0⟩)

end StateTransition.Evm
