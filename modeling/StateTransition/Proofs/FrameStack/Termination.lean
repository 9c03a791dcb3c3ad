import StateTransition.Proofs.FrameStack.Budget
import StateTransition.Proofs.Instruction.Charges

namespace StateTransition.Evm

namespace Machine

variable {setting : Setting} {machine after : Machine}

theorem gas_lt_of_step (metered : setting.rules.Metered)
    (step : machine.step setting = (none, after)) : after.frame.gas < machine.frame.gas := by
  have charged := Exec.charged_step metered machine
  rw [Exec.Ensures, exec_of_step_none step] at charged
  exact charged

theorem handed_lt_of_step {action : Action} {asked : Attempt} (metered : setting.rules.Metered)
    (step : machine.step setting = (some action, after)) (asks : action.attempt? = some asked) :
    after.frame.gas + asked.gas < machine.frame.gas := by
  obtain ⟨control, run, requests⟩ := exec_of_step_asks step asks
  have charged := Exec.charged_step metered machine
  rw [Exec.Ensures, run] at charged
  cases control with
  | call request | create request =>
    cases requests
    exact charged
  | _ => cases requests

end Machine

def Ending.ticks : Ending → Nat
  | .finished completion => completion.ticks
  | .overflowed ticks => ticks

def Progress.ticks : Progress → Nat
  | .running stack => stack.ticks
  | .ended ending => ending.ticks

namespace FrameStack

variable {setting : Setting} {attempt : Attempt} {journal : Journal} {stack next : FrameStack}
  {openings later : List Opened}

/-- A bound of the instructions that are left: two for each unit of gas and one for each frame. -/
def workLeft (stack : FrameStack) : Nat := 2 * stack.gas + stack.parents.length + 1

theorem Transition.workLeft_lt (transition : Transition setting stack openings next later)
    (metered : setting.rules.Metered)
    (nested : Nested setting stack.current stack.parents stack.journal openings) :
    next.workLeft < stack.workLeft := by
  simp only [workLeft, gas]
  cases transition with
  | @stay after step =>
    have spent : after.frame.gas < stack.current.frame.gas := Machine.gas_lt_of_step metered step
    simp only [continued]
    omega
  | @enter action after asked child opened step asks enters =>
    have spent : after.frame.gas + asked.gas < stack.current.frame.gas :=
      Machine.handed_lt_of_step metered step asks
    have given := gas_of_enter enters
    simp only [gasHeld, continued, List.length_cons]
    omega
  | @resume action after asked kind result left resumed step asks enters resumes =>
    have spent : after.frame.gas + asked.gas < stack.current.frame.gas :=
      Machine.handed_lt_of_step metered step asks
    have back := gasLeft_le_of_enter enters
    have gas : resumed.frame.gas = after.frame.gas + result.gasLeft :=
      (Activation.resumedWith_of_resume? resumes).gas
    simp only
    omega
  | @leave raw result after left caller resumed callers step settles waiting resumes =>
    obtain ⟨opened, outer, same, serves⟩ := nested.exists_served
    have back := gasLeft_le_of_settle serves step settles
    have spent := gas_le_of_step step
    have gas := (Activation.resumedWith_of_resume? resumes).gas
    simp only [waiting, gasHeld, List.length_cons]
    omega

theorem ticks_resumeWith (waiting : Activation) (parents : List Activation) (kind : FrameKind)
    (result : FrameResult) (left : Journal) (ticks : Nat) :
    (resumeWith waiting parents kind result left ticks).ticks = ticks := by
  rw [resumeWith]
  split <;> rfl

theorem ticks_enter (parent : Activation) (parents : List Activation) (entry : Entry)
    (left : Journal) (ticks : Nat) : (enter parent parents entry left ticks).ticks = ticks := by
  cases entry with
  | run child => rfl
  | done kind result => exact ticks_resumeWith _ _ _ _ _ _

theorem ticks_step (setting : Setting) (stack : FrameStack) :
    (stack.step setting).ticks = stack.ticks + 1 := by
  rw [step]
  generalize stack.machine.step setting = advanced
  obtain ⟨action, after⟩ := advanced
  cases action with
  | none => rfl
  | some action =>
    cases action with
    | call request | create request => exact ticks_enter _ _ _ _ _
    | overflow => rfl
    | finish raw =>
      simp only [follow]
      split
      · exact ticks_resumeWith _ _ _ _ _ _
      · rfl

theorem ticks_of_step {progress : Progress} (steps : stack.step setting = progress) :
    progress.ticks = stack.ticks + 1 := by
  rw [← steps]
  exact ticks_step setting stack

theorem Underway.ticks_add_workLeft_le (metered : setting.rules.Metered)
    (underway : Underway setting attempt journal stack openings) :
    stack.ticks + stack.workLeft ≤ 2 * attempt.gas + 1 := by
  induction underway with
  | start enters =>
    simp only [workLeft, gas, gasHeld, gas_of_enter enters, List.length_nil]
    omega
  | @step stack next openings underway steps ih =>
    have less := (transition_of_step openings steps).workLeft_lt metered underway.nested
    have ticks : next.ticks = stack.ticks + 1 := ticks_of_step steps
    omega

/-- A run that comes to an end begins a fixed number of instructions: with that many steps or more it
ends alike, with fewer it does not end. -/
theorem run_of_run {steps : Nat} {ending : Ending} (ends : run setting steps stack = some ending) :
    stack.ticks < ending.ticks ∧ ∀ count, run setting count stack =
      if ending.ticks ≤ stack.ticks + count then some ending else none := by
  induction steps generalizing stack with
  | zero => cases ends
  | succ steps ih =>
    rw [run] at ends
    cases goes : stack.step setting with
    | ended last =>
      rw [goes] at ends
      cases ends
      have ticks : ending.ticks = stack.ticks + 1 := ticks_of_step goes
      refine ⟨by omega, ?_⟩
      intro count
      cases count with
      | zero => rw [run, if_neg (by omega)]
      | succ count => rw [run, goes, if_pos (by omega)]
    | running next =>
      rw [goes] at ends
      have ticks : next.ticks = stack.ticks + 1 := ticks_of_step goes
      obtain ⟨later, runs⟩ := ih ends
      refine ⟨by omega, ?_⟩
      intro count
      cases count with
      | zero => rw [run, if_neg (by omega)]
      | succ count =>
        have same : next.ticks + count = stack.ticks + (count + 1) := by omega
        rw [run, goes, ← same]
        exact runs count

theorem Underway.exists_run (metered : setting.rules.Metered)
    (underway : Underway setting attempt journal stack openings) :
    ∃ steps ending, run setting steps stack = some ending ∧
      ending.ticks ≤ stack.ticks + stack.workLeft := by
  -- The number of steps is not known before; the work left is, and every step but the last
  -- lowers it.
  induction bound : stack.workLeft using Nat.strongRecOn generalizing stack openings with
  | ind work ih =>
  cases steps : stack.step setting with
  | ended ending =>
    have ticks : ending.ticks = stack.ticks + 1 := ticks_of_step steps
    refine ⟨1, ending, by rw [run, steps], ?_⟩
    rw [← bound, workLeft]
    omega
  | running next =>
    have ticks : next.ticks = stack.ticks + 1 := ticks_of_step steps
    have less := (transition_of_step openings steps).workLeft_lt metered underway.nested
    rw [bound] at less
    obtain ⟨count, ending, ends, within⟩ := ih _ less (underway.step steps) rfl
    refine ⟨count + 1, ending, ?_, by omega⟩
    rw [run, steps]
    exact ends

theorem Underway.terminates (metered : setting.rules.Metered)
    (underway : Underway setting attempt journal stack openings) :
    ∃ ending : Ending, ending.ticks ≤ stack.ticks + stack.workLeft ∧
      ∀ steps, run setting steps stack =
        if ending.ticks ≤ stack.ticks + steps then some ending else none := by
  obtain ⟨steps, ending, ends, within⟩ := underway.exists_run metered
  exact ⟨ending, within, (run_of_run ends).2⟩

theorem terminates (metered : setting.rules.Metered) (attempt : Attempt) (journal : Journal) :
    ∃ ending : Ending, ending.ticks ≤ 2 * attempt.gas + 1 ∧
      ∀ steps, runEntry setting steps (attempt.enter setting journal).1
        (attempt.enter setting journal).2 =
          if ending.ticks ≤ steps then some ending else none := by
  cases enters : attempt.enter setting journal with
  | mk entry left =>
  cases entry with
  | run activation =>
    have given := gas_of_enter enters
    obtain ⟨ending, within, runs⟩ := (Underway.start enters).terminates metered
    refine ⟨ending, ?_, ?_⟩
    · simp only [workLeft, gas, gasHeld, given, List.length_nil] at within
      omega
    · intro steps
      have result := runs steps
      rw [Nat.zero_add] at result
      exact result
  | done kind result =>
    refine ⟨.finished ⟨result, left, 0⟩, Nat.zero_le _, ?_⟩
    intro steps
    exact (if_pos (Nat.zero_le _)).symm

end FrameStack

end StateTransition.Evm
