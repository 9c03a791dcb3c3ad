import StateTransition.Proofs.FrameStack.Underway
import StateTransition.Proofs.Instruction.Positions

namespace StateTransition.Evm

namespace Frame

/-- The frame has asked for a child and waits for what it hands back. -/
inductive Waits (setting : Setting) (bytes : Bytes) : Frame → Prop where
  | asked {frame : Frame} {journal : Journal} {after : Machine} {control : Control}
      (driven : frame.Driven setting bytes)
      (step : Exec.step setting ⟨frame, journal⟩ = .ok control after)
      (asks : control.asks = true) : Waits setting bytes after.frame

end Frame

namespace FrameStack

variable {setting : Setting} {stack next : FrameStack} {openings later : List Opened}

/-- The running frame is driven by some code, and the frames below it wait for their children. -/
structure DrivenByCode (setting : Setting) (stack : FrameStack) : Prop where
  current : ∃ bytes, stack.current.frame.Driven setting bytes
  parents : ∀ parent ∈ stack.parents, ∃ bytes, parent.frame.Waits setting bytes

theorem driven_of_resume? {bytes : Bytes} {waiting resumed : Activation} {kind : FrameKind}
    {result : FrameResult} (waits : waiting.frame.Waits setting bytes)
    (resumes : waiting.resume? kind result = some resumed) :
    resumed.frame.Driven setting bytes := by
  generalize same : waiting.frame = frame at waits
  cases waits with
  | asked driven step asks =>
    cases kind with
    | call offset size =>
      obtain ⟨frame, framed, rfl⟩ := Option.map_eq_some_iff.mp resumes
      rw [same] at framed
      exact driven.resumeCall step asks framed
    | create address =>
      cases resumes
      simp only [same]
      exact driven.resumeCreate step asks result address

theorem waits_of_step_asks {bytes : Bytes} {machine after : Machine} {action : Action}
    {asked : Attempt} (driven : machine.frame.Driven setting bytes)
    (step : machine.step setting = (some action, after)) (asks : action.attempt? = some asked) :
    after.frame.Waits setting bytes := by
  obtain ⟨control, run, wants⟩ := Machine.exec_of_step_asks step asks
  have asking : control.asks = true := by
    cases control with
    | call request | create request => rfl
    | _ => cases wants
  exact .asked driven run asking

theorem driven_of_enter {attempt : Attempt} {journal opened : Journal} {child : Activation}
    (enters : attempt.enter setting journal = (.run child, opened)) :
    ∃ bytes, child.frame.Driven setting bytes := by
  have begins := attempt.begins_enter setting journal
  rw [enters] at begins
  cases begins with
  | runs opens code => exact ⟨code, .start _ _⟩

theorem Transition.drivenByCode (transition : Transition setting stack openings next later)
    (driven : stack.DrivenByCode setting) : next.DrivenByCode setting := by
  obtain ⟨bytes, current⟩ := driven.current
  cases transition with
  | stay step => exact ⟨⟨bytes, current.next (Machine.exec_of_step_none step)⟩, driven.parents⟩
  | enter step asks enters =>
    refine ⟨driven_of_enter enters, ?_⟩
    intro parent member
    rcases List.mem_cons.mp member with same | below
    · rw [same]
      exact ⟨bytes, waits_of_step_asks current step asks⟩
    · exact driven.parents parent below
  | resume step asks enters resumes =>
    exact ⟨⟨bytes, driven_of_resume? (waits_of_step_asks current step asks) resumes⟩,
      driven.parents⟩
  | @leave _ _ _ _ caller _ _ step settles waiting resumes =>
    obtain ⟨code, waits⟩ := driven.parents caller (by simp [waiting])
    refine ⟨⟨code, driven_of_resume? waits resumes⟩, ?_⟩
    intro parent member
    exact driven.parents parent (by simp [waiting, member])

theorem Underway.drivenByCode {attempt : Attempt} {journal : Journal}
    (underway : Underway setting attempt journal stack openings) : stack.DrivenByCode setting := by
  induction underway with
  | start enters =>
    refine ⟨driven_of_enter enters, ?_⟩
    intro parent member
    cases member
  | @step _ _ earlier _ steps ih => exact (transition_of_step earlier steps).drivenByCode ih

theorem Underway.standsIn {attempt : Attempt} {journal : Journal}
    (underway : Underway setting attempt journal stack openings) :
    ∃ bytes, stack.current.frame.StandsIn bytes := by
  obtain ⟨bytes, driven⟩ := underway.drivenByCode.current
  exact ⟨bytes, driven.standsIn⟩

end FrameStack

end StateTransition.Evm
