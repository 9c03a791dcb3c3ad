import StateTransition.Proofs.FrameStack.Isolation
import StateTransition.Proofs.Instruction.Slices

/-!
Frames run without faults. The checked run takes every access to memory, every slice and every push
of an answer only where it is possible; it is the run itself. What a frame that waits needs for this,
a covered range for the output and room on the stack for the answer, it has from the instruction with
which it began to wait, and keeps while its child runs.
-/

namespace StateTransition.Evm

namespace FrameResult

def cutOutput? (result : FrameResult) (size : Nat) : Option Bytes :=
  if result.isHalt then some []
  else result.output.slice? 0 (min size result.output.length)

theorem cutOutput?_eq (result : FrameResult) (size : Nat) :
    result.cutOutput? size = some (if result.isHalt then [] else result.output.take size) := by
  rw [cutOutput?, Bytes.slice?_of_le _ (Nat.zero_le _) (Nat.min_le_right _ _), Bytes.slice,
    List.drop_zero, Nat.sub_zero, ← List.take_take, List.take_length]
  split <;> rfl

end FrameResult

namespace Frame

def pushResult? (frame : Frame) (word : Word) : Option Frame :=
  match Stack.push word frame.stack with
  | .ok _ stack => some { frame with stack }
  | .error .. => none

def resumeCallChecked? (frame : Frame) (result : FrameResult) (offset size : Nat) :
    Option Frame := do
  let kept ← result.cutOutput? size
  let memory ← frame.memory.storeSlice? offset kept
  { frame with
    memory
    gas := frame.gas + result.gasLeft
    returnData := result.output }.pushResult? (Word.ofBool result.isSuccess)

def resumeCreateChecked? (frame : Frame) (result : FrameResult) (address : Address) :
    Option Frame :=
  { frame with
    gas := frame.gas + result.gasLeft
    returnData := if result.status = FrameStatus.revert then result.output else [] }.pushResult?
      (if result.isSuccess then address.toWord else 0#256)

theorem pushResult?_eq {frame : Frame} (room : frame.stack.size < stackLimit) (word : Word) :
    frame.pushResult? word = some (frame.pushResult word) := by
  have pushes : frame.stack.items.size < stackLimit := room
  simp [pushResult?, pushResult, Stack.push, pushes]

end Frame

namespace Activation

variable {waiting : Activation} {kind : FrameKind}

def resumeChecked? (parent : Activation) (kind : FrameKind) (result : FrameResult) :
    Option Activation :=
  match kind with
  | .call offset size =>
    (parent.frame.resumeCallChecked? result offset size).map fun frame => { parent with frame }
  | .create address =>
    (parent.frame.resumeCreateChecked? result address).map fun frame => { parent with frame }

theorem resumeChecked?_eq (place : waiting.frame.stack.size < stackLimit) (kind : FrameKind)
    (result : FrameResult) : waiting.resumeChecked? kind result = waiting.resume? kind result := by
  cases kind with
  | create address =>
    rw [resumeChecked?, Frame.resumeCreateChecked?, Frame.pushResult?_eq]
    · rfl
    · exact place
  | call offset size =>
    simp only [resumeChecked?, Frame.resumeCallChecked?, resume?, Frame.resumeCall?,
      FrameResult.cutOutput?_eq, Option.bind_eq_bind, Option.bind_some]
    cases waiting.frame.memory.storeSlice? offset
        (if result.isHalt then [] else result.output.take size) with
    | none => rfl
    | some memory =>
      rw [Option.bind_some, Frame.pushResult?_eq]
      · rfl
      · exact place

/-- What a frame needs that waits for a child of some kind. -/
structure Awaits (waiting : Activation) (kind : FrameKind) : Prop where
  room : waiting.HasRoom kind
  place : waiting.frame.stack.size < stackLimit

theorem Awaits.resumes (awaits : waiting.Awaits kind) (result : FrameResult) :
    ∃ resumed, waiting.resume? kind result = some resumed ∧
      waiting.resumeChecked? kind result = some resumed := by
  obtain ⟨resumed, resumes⟩ := resume?_of_hasRoom awaits.room result
  exact ⟨resumed, resumes, (resumeChecked?_eq awaits.place kind result).trans resumes⟩

end Activation

def Machine.advanceChecked? (setting : Setting) (machine : Machine) :
    Option (Option Action × Machine) :=
  match Exec.stepChecked setting machine with
  | .ok .next machine => some (none, machine)
  | .ok .stop machine => some (some (.finish (.success machine.frame.gas [])), machine)
  | .ok (.finish output) machine =>
    some (some (.finish (.success machine.frame.gas output)), machine)
  | .ok (.revert output) machine =>
    some (some (.finish (.revert machine.frame.gas output)), machine)
  | .ok (.call request) machine => some (some (.call request), machine)
  | .ok (.create request) machine => some (some (.create request), machine)
  | .error .memoryFault _ => none
  | .error reason machine => some (some (.finish (.halt reason)), machine)

def Machine.stepChecked? (setting : Setting) (machine : Machine) :
    Option (Option Action × Machine) :=
  (machine.advanceChecked? setting).map fun (action, after) =>
    (if after.journal.refundFits then action else some .overflow, after)

namespace FrameStack

def resumeWithChecked? (waiting : Activation) (parents : List Activation) (kind : FrameKind)
    (result : FrameResult) (journal : Journal) (ticks : Nat) : Option Progress :=
  (waiting.resumeChecked? kind result).map fun current =>
    .running ⟨current, parents, journal, ticks⟩

def enterChecked? (parent : Activation) (parents : List Activation) (entry : Entry)
    (journal : Journal) (ticks : Nat) : Option Progress :=
  match entry with
  | .run child => some (.running ⟨child, parent :: parents, journal, ticks⟩)
  | .done kind result => resumeWithChecked? parent parents kind result journal ticks

def followChecked? (setting : Setting) (stack : FrameStack) :
    Option Action × Machine → Option Progress
  | (none, after) =>
    some (.running ⟨stack.continued after, stack.parents, after.journal, stack.ticks + 1⟩)
  | (some (.call request), after) =>
    let (entry, journal) := startCall setting after.journal request
    enterChecked? (stack.continued after) stack.parents entry journal (stack.ticks + 1)
  | (some (.create request), after) =>
    let (entry, journal) := startCreate setting after.journal request
    enterChecked? (stack.continued after) stack.parents entry journal (stack.ticks + 1)
  | (some (.finish result), after) =>
    let ⟨_, kind, checkpoint⟩ := stack.current
    let (settled, journal) := settle setting.rules after.journal kind checkpoint result
    match stack.parents with
    | parent :: rest => resumeWithChecked? parent rest kind settled journal (stack.ticks + 1)
    | [] => some (.ended (.finished ⟨settled, journal, stack.ticks + 1⟩))
  | (some .overflow, _) => some (.ended (.overflowed (stack.ticks + 1)))

/-- One instruction of the running frame and what it leads to; nothing if some access, slice or
answer is impossible. -/
def stepChecked? (setting : Setting) (stack : FrameStack) : Option Progress :=
  (stack.machine.stepChecked? setting).bind (stack.followChecked? setting)

def runChecked? (setting : Setting) : (steps : Nat) → FrameStack → Option (Option Ending)
  | 0, _ => some none
  | steps + 1, stack =>
    match stack.stepChecked? setting with
    | none => none
    | some (.running next) => runChecked? setting steps next
    | some (.ended ending) => some (some ending)

end FrameStack

def Attempt.runChecked? (setting : Setting) (journal : Journal) (steps : Nat) (attempt : Attempt) :
    Option (Option Ending) :=
  match attempt.enter setting journal with
  | (.run activation, opened) =>
    FrameStack.runChecked? setting steps ⟨activation, [], opened, 0⟩
  | (.done _ result, left) => some (some (.finished ⟨result, left, 0⟩))

namespace Machine

variable {setting : Setting} {machine after : Machine}

theorem advanceChecked?_eq (setting : Setting) (machine : Machine) :
    machine.advanceChecked? setting = some (machine.advance setting) := by
  rw [advanceChecked?, Exec.stepChecked_eq, Machine.advance]
  cases run : Exec.step setting machine with
  | ok control after => cases control <;> rfl
  | error reason after =>
    cases reason with
    | memoryFault => exact absurd run (Exec.neverFaults_step setting machine after)
    | _ => rfl

theorem stepChecked?_eq (setting : Setting) (machine : Machine) :
    machine.stepChecked? setting = some (machine.step setting) := by
  rw [stepChecked?, advanceChecked?_eq, step_eq]
  rfl

theorem place_of_asks {control : Control} {asked : Attempt}
    (run : Exec.step setting machine = .ok control after) (asks : control.attempt? = some asked) :
    after.frame.stack.size < stackLimit := by
  have issued := (Exec.issued_step setting machine).of_run run
  apply issued.room
  cases control with
  | call request | create request => rfl
  | _ => cases asks

theorem awaits_of_asks {control : Control} {asked : Attempt} {waiting : Activation}
    (run : Exec.step setting machine = .ok control after) (asks : control.attempt? = some asked)
    (frame : waiting.frame = after.frame) (journal : Journal) :
    waiting.Awaits (asked.kind setting journal) := by
  constructor
  · have issued := (Exec.issued_step setting machine).of_run run
    cases control with
    | call request =>
      cases asks
      have room := CallRequest.Issued.room issued
      rw [← frame] at room
      exact room
    | create request =>
      cases asks
      trivial
    | _ => cases asks
  · rw [frame]
    exact place_of_asks run asks

end Machine

namespace FrameStack

variable {setting : Setting} {attempt : Attempt} {journal : Journal} {stack next : FrameStack}
  {openings later : List Opened}

def Places (stack : FrameStack) : Prop :=
  ∀ waiting ∈ stack.parents, waiting.frame.stack.size < stackLimit

theorem Transition.places (transition : Transition setting stack openings next later)
    (places : stack.Places) : next.Places := by
  cases transition with
  | stay step => exact places
  | @enter action after asked child opened step asks enters =>
    obtain ⟨control, run, wants⟩ := Machine.exec_of_step_asks step asks
    intro waiting member
    cases member with
    | head => exact Machine.place_of_asks run wants
    | tail _ member => exact places waiting member
  | resume step asks enters resumes => exact places
  | leave step settles waits resumes =>
    intro waiting member
    apply places waiting
    rw [waits]
    exact .tail _ member

theorem Underway.places (underway : Underway setting attempt journal stack openings) :
    stack.Places := by
  induction underway with
  | start enters =>
    intro waiting member
    cases member
  | @step _ _ openings _ steps ih => exact (transition_of_step openings steps).places ih

theorem resumeWithChecked?_eq {waiting : Activation} {kind : FrameKind}
    (awaits : waiting.Awaits kind) (parents : List Activation) (result : FrameResult)
    (journal : Journal) (ticks : Nat) :
    resumeWithChecked? waiting parents kind result journal ticks =
      some (resumeWith waiting parents kind result journal ticks) := by
  obtain ⟨resumed, resumes, checked⟩ := awaits.resumes result
  simp only [resumeWithChecked?, resumeWith, resumes, checked, Option.map_some]

theorem enterChecked?_eq {parent : Activation} {entry : Entry}
    (awaits : ∀ kind result, entry = .done kind result → parent.Awaits kind)
    (parents : List Activation) (journal : Journal) (ticks : Nat) :
    enterChecked? parent parents entry journal ticks =
      some (enter parent parents entry journal ticks) := by
  cases entry with
  | run child => rfl
  | done kind result => exact resumeWithChecked?_eq (awaits kind result rfl) _ _ _ _

theorem stepChecked?_eq (underway : Underway setting attempt journal stack openings) :
    stack.stepChecked? setting = some (stack.step setting) := by
  rw [stepChecked?, Machine.stepChecked?_eq, Option.bind_some, FrameStack.step]
  have asks {action : Action} {after : Machine} (asked : Attempt)
      (step : stack.machine.step setting = (some action, after))
      (asks : action.attempt? = some asked) (kind : FrameKind) (result : FrameResult)
      (done : (asked.enter setting after.journal).1 = .done kind result) :
      (stack.continued after).Awaits kind := by
    obtain ⟨control, run, wants⟩ := Machine.exec_of_step_asks step asks
    have begins := asked.begins_enter setting after.journal
    have awaits : (stack.continued after).Awaits (asked.kind setting after.journal) :=
      Machine.awaits_of_asks run wants rfl after.journal
    cases enters : asked.enter setting after.journal with
    | mk entry left =>
    rw [enters] at begins done
    cases done
    cases begins <;> exact awaits
  cases step : stack.machine.step setting with
  | mk action after =>
  cases action with
  | none => rfl
  | some action =>
    cases action with
    | call request =>
      exact enterChecked?_eq (asks (.call request) step rfl) _ _ _
    | create request =>
      exact enterChecked?_eq (asks (.create request) step rfl) _ _ _
    | overflow => rfl
    | finish raw =>
      have nested := underway.nested
      have places := underway.places
      cases waits : stack.parents with
      | nil => simp only [followChecked?, follow, waits]
      | cons caller callers =>
        have place : caller.frame.stack.size < stackLimit := by
          apply places
          rw [waits]
          exact .head _
        rw [waits] at nested
        cases nested with
        | inner serves waiting room outer =>
          simp only [followChecked?, follow, waits]
          exact resumeWithChecked?_eq ⟨room, place⟩ _ _ _ _

theorem runChecked?_eq (underway : Underway setting attempt journal stack openings) (steps : Nat) :
    runChecked? setting steps stack = some (run setting steps stack) := by
  induction steps generalizing stack openings with
  | zero => rfl
  | succ steps ih =>
    rw [runChecked?, run, stepChecked?_eq underway]
    cases goes : stack.step setting with
    | running next => exact ih (underway.step goes)
    | ended ending => rfl

end FrameStack

theorem Attempt.runChecked?_eq (setting : Setting) (journal : Journal) (steps : Nat)
    (attempt : Attempt) : attempt.runChecked? setting journal steps =
      some (runEntry setting steps (attempt.enter setting journal).1
        (attempt.enter setting journal).2) := by
  rw [runChecked?]
  cases enters : attempt.enter setting journal with
  | mk entry opened =>
  cases entry with
  | run activation => exact FrameStack.runChecked?_eq (.start enters) steps
  | done kind result => rfl

theorem Precompile.used_le {contract : Precompile} {input output : Bytes} {gas used : Nat}
    (runs : contract.run input gas = .ok (used, output)) : used ≤ gas := by
  simp only [run] at runs
  split at runs
  · cases runs
  · rename_i enough
    cases runs
    exact Nat.le_of_not_lt enough

/-- Nothing partial is applied outside its domain. One instruction, on whatever machine, is the
instruction with every slice checked and never reaches past the end of memory. A frame that asks for
a call or a creation can be resumed with whatever result comes back, the output stored and the answer
pushed. So each step of a stack of frames, and the whole of each call or creation, is the checked one,
and a provided contract only takes gas that is there. -/
theorem interpreter_neverFaults (setting : Setting) :
    (∀ machine : Machine,
      Exec.stepChecked setting machine = Exec.step setting machine ∧
      (∀ after, Exec.step setting machine ≠ .error .memoryFault after) ∧
      machine.frame.memory.size % 32 = 0 ∧ machine.frame.stack.size ≤ 1024) ∧
    (∀ (machine after : Machine) (control : Control) (asked : Attempt),
      Exec.step setting machine = .ok control after → control.attempt? = some asked →
      ∀ (waiting : Activation) (journal : Journal) (result : FrameResult),
        waiting.frame = after.frame →
        ∃ resumed, waiting.resume? (asked.kind setting journal) result = some resumed ∧
          waiting.resumeChecked? (asked.kind setting journal) result = some resumed) ∧
    (∀ (attempt : Attempt) (journal : Journal) (stack : FrameStack) (openings : List Opened),
      FrameStack.Underway setting attempt journal stack openings →
      stack.stepChecked? setting = some (stack.step setting)) ∧
    (∀ (attempt : Attempt) (journal : Journal) (steps : Nat),
      attempt.runChecked? setting journal steps =
        some (runEntry setting steps (attempt.enter setting journal).1
          (attempt.enter setting journal).2)) ∧
    ∀ (contract : Precompile) (input output : Bytes) (gas used : Nat),
      contract.run input gas = .ok (used, output) → used ≤ gas := by
  refine ⟨?_, ?_, ?_, ?_, ?_⟩
  · intro machine
    exact ⟨Exec.stepChecked_eq setting, Exec.neverFaults_step setting machine,
      machine.frame.memory.aligned, machine.frame.stack.bounded⟩
  · intro machine after control asked run asks waiting journal result frame
    exact (Machine.awaits_of_asks run asks frame journal).resumes result
  · intro attempt journal stack openings underway
    exact FrameStack.stepChecked?_eq underway
  · intro attempt journal steps
    exact attempt.runChecked?_eq setting journal steps
  · intro contract input output gas used runs
    exact Precompile.used_le runs

def londonSetting : Setting :=
  Accepted.setting ⟨⟨0x10#160⟩, 21000, 10#256⟩ (Mainnet.rules .london) {}

theorem interpreter_neverFaults_spender : ∃ stack openings control asked after,
    FrameStack.Underway londonSetting (.call FrameStack.callOfSpender)
      FrameStack.spenderAndStore stack openings ∧
    Exec.step londonSetting stack.machine = .ok control after ∧ control.attempt? = some asked ∧
    (∀ result, ∃ resumed,
      (stack.continued after).resume? (asked.kind londonSetting after.journal) result =
          some resumed ∧
        (stack.continued after).resumeChecked? (asked.kind londonSetting after.journal) result =
          some resumed) ∧
    stack.stepChecked? londonSetting = some (stack.step londonSetting) ∧
    Precompile.identity.run [1] 100 = .ok (18, [1]) ∧ 18 ≤ 100 := by
  have asking : ((FrameStack.reach londonSetting (.call FrameStack.callOfSpender)
      FrameStack.spenderAndStore 7).any
      fun reached => ((reached.1.machine.step londonSetting).1.bind Action.attempt?).isSome) =
      true := by
    simp only [londonSetting, Mainnet.rules_eq_readOff]
    decide +kernel
  obtain ⟨⟨stack, openings⟩, reaches, asks⟩ := (Option.any_eq_true _ _).mp asking
  obtain ⟨asked, asks⟩ := Option.isSome_iff_exists.mp asks
  obtain ⟨action, acts, asks⟩ := Option.bind_eq_some_iff.mp asks
  have step : stack.machine.step londonSetting =
      (some action, (stack.machine.step londonSetting).2) := Prod.ext acts rfl
  obtain ⟨control, run, wants⟩ := Machine.exec_of_step_asks step asks
  have underway := FrameStack.underway_of_reach reaches
  have provided : Precompile.identity.run [1] 100 = .ok (18, [1]) := rfl
  obtain ⟨-, resumes, steps, -, spends⟩ := interpreter_neverFaults londonSetting
  refine ⟨stack, openings, control, asked, _, underway, run, wants, ?_, steps _ _ _ _ underway,
    provided, spends _ _ _ _ _ provided⟩
  intro result
  exact resumes _ _ _ _ run wants _ _ result rfl

end StateTransition.Evm
