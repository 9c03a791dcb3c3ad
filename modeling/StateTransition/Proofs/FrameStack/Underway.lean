import StateTransition.Proofs.FrameStack.Attempts

/-!
Attempts under way. Beside the stack of frames runs the list of the attempts behind them, each with
the journal in which it was made and the frame that waits for it. Every reachable stack is nested:
each frame extends the base of its attempt, and what waits below is as it was when the attempt
was made.
-/

namespace StateTransition.Evm

/-- An attempt whose frame is on the stack. -/
structure Opened where
  attempt : Attempt
  journal : Journal
  caller : Option Activation

def Opened.base (setting : Setting) (opened : Opened) : Journal :=
  opened.attempt.base setting opened.journal

def Action.attempt? : Action → Option Attempt
  | .call request => some (.call request)
  | .create request => some (.create request)
  | .finish _ | .overflow => none

def Control.attempt? : Control → Option Attempt
  | .call request => some (.call request)
  | .create request => some (.create request)
  | _ => none

namespace Machine

variable {setting : Setting} {machine after : Machine}

theorem exec_of_step_none (step : machine.step setting = (none, after)) :
    Exec.step setting machine = .ok .next after := by
  have advances := (advance_of_step step nofun).1
  rw [Machine.advance] at advances
  cases run : Exec.step setting machine with
  | ok control reached =>
    rw [run] at advances
    cases control with
    | next =>
      cases advances
      rfl
    | _ => cases advances
  | error reason reached =>
    rw [run] at advances
    cases advances

theorem exec_of_step_asks {action : Action} {asked : Attempt}
    (step : machine.step setting = (some action, after)) (asks : action.attempt? = some asked) :
    ∃ control, Exec.step setting machine = .ok control after ∧ control.attempt? = some asked := by
  have goes : some action ≠ some Action.overflow := by
    rintro ⟨⟩
    cases asks
  have advances := (advance_of_step step goes).1
  rw [Machine.advance] at advances
  cases run : Exec.step setting machine with
  | ok control reached =>
    rw [run] at advances
    cases control with
    | next => cases advances
    | call request | create request =>
      cases advances
      exact ⟨_, rfl, asks⟩
    | stop | finish output | revert output =>
      cases advances
      cases asks
  | error reason reached =>
    rw [run] at advances
    cases advances
    cases asks

end Machine

namespace FrameStack

def track (setting : Setting) (stack : FrameStack) (openings : List Opened) : List Opened :=
  match stack.machine.step setting with
  | (none, _) => openings
  | (some action, after) =>
    match action.attempt? with
    | none => openings.tail
    | some attempt =>
      match (attempt.enter setting after.journal).1 with
      | .run _ => ⟨attempt, after.journal, some (stack.continued after)⟩ :: openings
      | .done .. => openings

/-- The stacks that come up while an attempt is made in a journal. -/
inductive Underway (setting : Setting) (attempt : Attempt) (journal : Journal) :
    FrameStack → List Opened → Prop where
  | start {activation : Activation} {opened : Journal}
      (enters : attempt.enter setting journal = (.run activation, opened)) :
      Underway setting attempt journal ⟨activation, [], opened, 0⟩ [⟨attempt, journal, none⟩]
  | step {stack next : FrameStack} {openings : List Opened}
      (underway : Underway setting attempt journal stack openings)
      (steps : stack.step setting = .running next) :
      Underway setting attempt journal next (stack.track setting openings)

def forward (setting : Setting) : (steps : Nat) → FrameStack → List Opened →
    Option (FrameStack × List Opened)
  | 0, stack, openings => some (stack, openings)
  | steps + 1, stack, openings =>
    match stack.step setting with
    | .running next => forward setting steps next (stack.track setting openings)
    | .ended _ => none

def reach (setting : Setting) (attempt : Attempt) (journal : Journal) (steps : Nat) :
    Option (FrameStack × List Opened) :=
  match attempt.enter setting journal with
  | (.run activation, opened) =>
    forward setting steps ⟨activation, [], opened, 0⟩ [⟨attempt, journal, none⟩]
  | (.done _ _, _) => none

section

variable {setting : Setting} {attempt : Attempt} {journal : Journal} {steps : Nat}
  {reached : FrameStack × List Opened}

theorem Underway.forward {stack : FrameStack} {openings : List Opened}
    (underway : Underway setting attempt journal stack openings)
    (reaches : FrameStack.forward setting steps stack openings = some reached) :
    Underway setting attempt journal reached.1 reached.2 := by
  induction steps generalizing stack openings with
  | zero =>
    cases reaches
    exact underway
  | succ steps ih =>
    rw [FrameStack.forward] at reaches
    split at reaches
    · rename_i next goes
      exact ih (underway.step goes) reaches
    · cases reaches

theorem underway_of_reach (reaches : reach setting attempt journal steps = some reached) :
    Underway setting attempt journal reached.1 reached.2 := by
  rw [reach] at reaches
  split at reaches
  · rename_i activation opened enters
    exact (Underway.start enters).forward reaches
  · cases reaches

end

/-- The ways a step can lead from a stack to a stack. -/
inductive Transition (setting : Setting) (stack : FrameStack) (openings : List Opened) :
    FrameStack → List Opened → Prop where
  | stay {after : Machine} (step : stack.machine.step setting = (none, after)) :
      Transition setting stack openings
        ⟨stack.continued after, stack.parents, after.journal, stack.ticks + 1⟩ openings
  | enter {action : Action} {after : Machine} {attempt : Attempt} {child : Activation}
      {opened : Journal} (step : stack.machine.step setting = (some action, after))
      (asks : action.attempt? = some attempt)
      (enters : attempt.enter setting after.journal = (.run child, opened)) :
      Transition setting stack openings
        ⟨child, stack.continued after :: stack.parents, opened, stack.ticks + 1⟩
        (⟨attempt, after.journal, some (stack.continued after)⟩ :: openings)
  | resume {action : Action} {after : Machine} {attempt : Attempt} {kind : FrameKind}
      {result : FrameResult} {left : Journal} {resumed : Activation}
      (step : stack.machine.step setting = (some action, after))
      (asks : action.attempt? = some attempt)
      (enters : attempt.enter setting after.journal = (.done kind result, left))
      (resumes : (stack.continued after).resume? kind result = some resumed) :
      Transition setting stack openings ⟨resumed, stack.parents, left, stack.ticks + 1⟩ openings
  | leave {raw result : FrameResult} {after : Machine} {left : Journal}
      {caller resumed : Activation} {callers : List Activation}
      (step : stack.machine.step setting = (some (.finish raw), after))
      (settles : settle setting.rules after.journal stack.current.kind stack.current.checkpoint raw =
        (result, left))
      (waiting : stack.parents = caller :: callers)
      (resumes : caller.resume? stack.current.kind result = some resumed) :
      Transition setting stack openings ⟨resumed, callers, left, stack.ticks + 1⟩ openings.tail

variable {setting : Setting}

theorem resumeWith_running {waiting : Activation} {parents : List Activation} {kind : FrameKind}
    {result : FrameResult} {journal : Journal} {ticks : Nat} {next : FrameStack}
    (steps : resumeWith waiting parents kind result journal ticks = .running next) :
    ∃ resumed, waiting.resume? kind result = some resumed ∧
      next = ⟨resumed, parents, journal, ticks⟩ := by
  rw [resumeWith] at steps
  split at steps
  · rename_i resumed resumes
    exact ⟨resumed, resumes, (Progress.running.inj steps).symm⟩
  · cases steps

theorem step_of_attempt {stack : FrameStack} {action : Action} {after : Machine} {attempt : Attempt}
    (step : stack.machine.step setting = (some action, after))
    (asks : action.attempt? = some attempt) :
    stack.step setting =
      enter (stack.continued after) stack.parents (attempt.enter setting after.journal).1
        (attempt.enter setting after.journal).2 (stack.ticks + 1) := by
  cases action with
  | call request =>
    cases asks
    exact congrArg (follow setting stack) step
  | create request =>
    cases asks
    exact congrArg (follow setting stack) step
  | finish result | overflow => cases asks

theorem step_of_finish {stack : FrameStack} {raw : FrameResult} {after : Machine}
    (step : stack.machine.step setting = (some (.finish raw), after)) :
    stack.step setting =
      (let settled := settle setting.rules after.journal stack.current.kind
        stack.current.checkpoint raw
      match stack.parents with
      | caller :: callers =>
        resumeWith caller callers stack.current.kind settled.1 settled.2 (stack.ticks + 1)
      | [] => .ended (.finished ⟨settled.1, settled.2, stack.ticks + 1⟩)) :=
  congrArg (follow setting stack) step

theorem step_of_overflow {stack : FrameStack} {after : Machine}
    (step : stack.machine.step setting = (some .overflow, after)) :
    stack.step setting = .ended (.overflowed (stack.ticks + 1)) :=
  congrArg (follow setting stack) step

theorem step_of_none {stack : FrameStack} {after : Machine}
    (step : stack.machine.step setting = (none, after)) :
    stack.step setting =
      .running ⟨stack.continued after, stack.parents, after.journal, stack.ticks + 1⟩ :=
  congrArg (follow setting stack) step

theorem transition_of_step {stack next : FrameStack} (openings : List Opened)
    (steps : stack.step setting = .running next) :
    Transition setting stack openings next (stack.track setting openings) := by
  cases step : stack.machine.step setting with
  | mk action after =>
  rw [track, step]
  cases action with
  | none =>
    rw [step_of_none step] at steps
    cases steps
    exact .stay step
  | some action =>
    cases asks : action.attempt? with
    | some attempt =>
      rw [step_of_attempt step asks] at steps
      cases enters : attempt.enter setting after.journal with
      | mk entry left =>
      rw [enters] at steps
      cases entry with
      | run child =>
        cases steps
        simp only [asks, enters]
        exact .enter step asks enters
      | done kind result =>
        obtain ⟨resumed, resumes, same⟩ := resumeWith_running steps
        subst same
        simp only [asks, enters]
        exact .resume step asks enters resumes
    | none =>
      cases action with
      | call request => cases asks
      | create request => cases asks
      | overflow =>
        rw [step_of_overflow step] at steps
        cases steps
      | finish raw =>
        rw [step_of_finish step] at steps
        cases waiting : stack.parents with
        | nil =>
          rw [waiting] at steps
          cases steps
        | cons caller callers =>
          rw [waiting] at steps
          obtain ⟨resumed, resumes, same⟩ := resumeWith_running steps
          subst same
          exact .leave step rfl waiting resumes

end FrameStack

end StateTransition.Evm
