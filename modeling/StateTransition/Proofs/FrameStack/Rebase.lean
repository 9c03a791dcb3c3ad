import StateTransition.Proofs.Instruction.Rebase

/-!
Frames on top of earlier changes. Each frame remembers by a count of changes where it would go back
to; with all of these moved along, a stack of frames takes the same steps.
-/

namespace StateTransition.Evm

variable (earlier : Array Change)

def Activation.onto (activation : Activation) : Activation :=
  { activation with checkpoint := activation.checkpoint.onto earlier }

def Entry.onto : Entry → Entry
  | .run activation => .run (activation.onto earlier)
  | .done kind result => .done kind result

def FrameStack.onto (stack : FrameStack) : FrameStack where
  current := stack.current.onto earlier
  parents := stack.parents.map (Activation.onto earlier)
  journal := stack.journal.onto earlier
  ticks := stack.ticks

def Completion.onto (completion : Completion) : Completion :=
  { completion with journal := completion.journal.onto earlier }

def Ending.onto : Ending → Ending
  | .finished completion => .finished (completion.onto earlier)
  | .overflowed ticks => .overflowed ticks

def Progress.onto : Progress → Progress
  | .running stack => .running (stack.onto earlier)
  | .ended ending => .ended (ending.onto earlier)

variable (setting : Setting) (journal : Journal)

theorem payCallee_onto (request : CallRequest) :
    payCallee (journal.onto earlier) request = (payCallee journal request).onto earlier := by
  simp only [payCallee, Journal.move_onto, Journal.touch_onto, Journal.ite_onto]

theorem enterCode_onto (request : CallRequest) (kind : FrameKind) (checkpoint : Checkpoint) :
    enterCode (journal.onto earlier) request kind (checkpoint.onto earlier) =
      (enterCode journal request kind checkpoint).map (Entry.onto earlier)
        (Journal.onto earlier) := by
  rw [enterCode, enterCode, Journal.code_onto]
  cases Precompile.at? request.codeAddress with
  | some contract =>
    dsimp only
    cases contract.run request.input request.gas with
    | ok answer => rfl
    | error reason =>
      rw [Journal.revert_onto]
      rfl
  | none =>
    dsimp only
    cases journal.code request.codeAddress <;> rfl

theorem startCall_onto (request : CallRequest) :
    startCall setting (journal.onto earlier) request =
      (startCall setting journal request).map (Entry.onto earlier) (Journal.onto earlier) := by
  have refuses : refusesCall setting.rules (journal.onto earlier) request =
      refusesCall setting.rules journal request := rfl
  have idle : isIdle setting.rules (journal.onto earlier) request =
      isIdle setting.rules journal request := rfl
  rw [startCall, startCall, refuses, idle]
  dsimp only
  split
  · rfl
  split
  · rfl
  · rw [Journal.ensure_onto, payCallee_onto, Journal.checkpoint_onto, enterCode_onto]

theorem warmTarget_onto (rules : Rules) (address : Address) :
    warmTarget rules (journal.onto earlier) address =
      (warmTarget rules journal address).onto earlier := by
  simp only [warmTarget, Journal.warmAccount_onto, Journal.ite_onto]

theorem enterCreate_onto (request : CreateRequest) (address : Address) :
    enterCreate setting (journal.onto earlier) request address =
      (enterCreate setting journal request address).map (Entry.onto earlier)
        (Journal.onto earlier) := by
  simp only [enterCreate, warmTarget_onto]
  generalize warmTarget setting.rules journal address = warmed
  have occupied : isOccupied (warmed.onto earlier) address = isOccupied warmed address := rfl
  rw [occupied, Journal.createAccount_onto, Journal.cannotPay_onto, Journal.checkpoint_onto,
    Journal.revert_onto, Journal.move_onto]
  split
  · rfl
  split
  · rfl
  · cases request.initCode <;> rfl

theorem startCreate_onto (request : CreateRequest) :
    startCreate setting (journal.onto earlier) request =
      (startCreate setting journal request).map (Entry.onto earlier) (Journal.onto earlier) := by
  have refuses : refusesCreate setting.rules (journal.onto earlier) request =
      refusesCreate setting.rules journal request := rfl
  have target : createTarget (journal.onto earlier) request = createTarget journal request := rfl
  rw [startCreate, startCreate, refuses, target, Journal.bumpNonce_onto, enterCreate_onto]
  split
  · rfl
  · rfl

theorem Attempt.enter_onto (attempt : Attempt) :
    attempt.enter setting (journal.onto earlier) =
      (attempt.enter setting journal).map (Entry.onto earlier) (Journal.onto earlier) := by
  cases attempt with
  | call request => exact startCall_onto earlier setting journal request
  | create request => exact startCreate_onto earlier setting journal request
  | deploy request address => exact enterCreate_onto earlier setting journal request address

theorem depositCode_onto (rules : Rules) (address : Address) (result : FrameResult) :
    depositCode rules (journal.onto earlier) address result =
      (depositCode rules journal address result).map id (Journal.onto earlier) := by
  rw [depositCode, depositCode, Journal.setCode_onto]
  split
  · rfl
  split
  · rfl
  split
  · split <;> rfl
  · rfl

theorem settle_onto (rules : Rules) (kind : FrameKind) (checkpoint : Checkpoint)
    (result : FrameResult) :
    settle rules (journal.onto earlier) kind (checkpoint.onto earlier) result =
      (settle rules journal kind checkpoint result).map id (Journal.onto earlier) := by
  have leave (settled : FrameResult) (left : Journal) :
      (if settled.isSuccess then left.onto earlier
      else (left.onto earlier).revert (checkpoint.onto earlier)) =
      (if settled.isSuccess then left else left.revert checkpoint).onto earlier := by
    rw [Journal.revert_onto, Journal.ite_onto]
  cases kind with
  | call offset size =>
    simp only [settle, leave]
    rfl
  | create address =>
    by_cases success : result.isSuccess
    · simp only [settle, success, if_true, depositCode_onto, Prod.map, leave]
      rfl
    · simp [settle, success, Journal.revert_onto]

theorem Activation.resume?_onto (parent : Activation) (kind : FrameKind) (result : FrameResult) :
    (parent.onto earlier).resume? kind result =
      (parent.resume? kind result).map (Activation.onto earlier) := by
  cases kind with
  | call offset size =>
    simp only [Activation.resume?, Activation.onto]
    cases parent.frame.resumeCall? result offset size <;> rfl
  | create address => rfl

namespace FrameStack

theorem resumeWith_onto (waiting : Activation) (parents : List Activation) (kind : FrameKind)
    (result : FrameResult) (ticks : Nat) :
    resumeWith (waiting.onto earlier) (parents.map (Activation.onto earlier)) kind result
        (journal.onto earlier) ticks =
      (resumeWith waiting parents kind result journal ticks).onto earlier := by
  rw [resumeWith, resumeWith, Activation.resume?_onto]
  cases waiting.resume? kind result <;> rfl

theorem enter_onto (parent : Activation) (parents : List Activation) (entry : Entry)
    (ticks : Nat) :
    enter (parent.onto earlier) (parents.map (Activation.onto earlier)) (entry.onto earlier)
        (journal.onto earlier) ticks =
      (enter parent parents entry journal ticks).onto earlier := by
  cases entry with
  | run child => rfl
  | done kind result => exact resumeWith_onto earlier journal parent parents kind result ticks

theorem follow_onto (stack : FrameStack) (action : Option Action) (after : Machine) :
    (stack.onto earlier).follow setting (action, after.onto earlier) =
      (stack.follow setting (action, after)).onto earlier := by
  cases action with
  | none => rfl
  | some action =>
    cases action with
    | overflow => rfl
    | call request =>
      have entered := startCall_onto earlier setting after.journal request
      rw [follow, follow, Machine.onto, entered]
      exact enter_onto earlier _ (stack.continued after) stack.parents _ _
    | create request =>
      have entered := startCreate_onto earlier setting after.journal request
      rw [follow, follow, Machine.onto, entered]
      exact enter_onto earlier _ (stack.continued after) stack.parents _ _
    | finish result =>
      obtain ⟨⟨frame, kind, checkpoint⟩, parents, journal, ticks⟩ := stack
      have left := settle_onto earlier after.journal setting.rules kind checkpoint result
      simp only [follow, FrameStack.onto, Activation.onto, Machine.onto, left, Prod.map]
      cases parents with
      | nil => rfl
      | cons parent rest => exact resumeWith_onto earlier _ parent rest kind _ _

theorem step_onto (stack : FrameStack) :
    (stack.onto earlier).step setting = (stack.step setting).onto earlier := by
  have same : (stack.onto earlier).machine = stack.machine.onto earlier := rfl
  rw [step, step, same, Machine.step_onto, follow_onto]

theorem run_onto (steps : Nat) (stack : FrameStack) :
    run setting steps (stack.onto earlier) = (run setting steps stack).map (.onto earlier) := by
  induction steps generalizing stack with
  | zero => rfl
  | succ steps ih =>
    rw [run, run, step_onto]
    cases stack.step setting with
    | running next => exact ih next
    | ended ending => rfl

end FrameStack

theorem runEntry_onto (steps : Nat) (entry : Entry) :
    runEntry setting steps (entry.onto earlier) (journal.onto earlier) =
      (runEntry setting steps entry journal).map (.onto earlier) := by
  cases entry with
  | run activation => exact FrameStack.run_onto earlier setting steps ⟨activation, [], journal, 0⟩
  | done kind result => rfl

end StateTransition.Evm
