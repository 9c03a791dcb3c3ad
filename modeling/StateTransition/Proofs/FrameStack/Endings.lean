import StateTransition.Proofs.FrameStack.Nesting

namespace StateTransition.Evm

def Ending.completion? : Ending → Option Completion
  | .finished completion => some completion
  | .overflowed _ => none

theorem Ending.eq_finished_of_completion? {ending : Ending} {completion : Completion}
    (completes : ending.completion? = some completion) : ending = .finished completion := by
  cases ending with
  | finished reached => rw [Option.some.inj completes]
  | overflowed ticks => cases completes

namespace FrameStack

/-- An attempt ends while the outermost one is made: the gas its frame had left, its result, the
journal that is handed over, and what the step leads to. -/
inductive Ends (setting : Setting) (attempt : Attempt) (journal : Journal) :
    Opened → Nat → FrameResult → Journal → Progress → Prop where
  | outright {kind : FrameKind} {result : FrameResult} {left : Journal}
      (enters : attempt.enter setting journal = (.done kind result, left)) :
      Ends setting attempt journal ⟨attempt, journal, none⟩ attempt.gas result left
        (.ended (.finished ⟨result, left, 0⟩))
  | atOnce {stack : FrameStack} {openings : List Opened} {action : Action} {after : Machine}
      {asked : Attempt} {kind : FrameKind} {result : FrameResult} {left : Journal}
      (underway : Underway setting attempt journal stack openings)
      (step : stack.machine.step setting = (some action, after))
      (asks : action.attempt? = some asked)
      (enters : asked.enter setting after.journal = (.done kind result, left)) :
      Ends setting attempt journal ⟨asked, after.journal, some (stack.continued after)⟩ asked.gas
        result left (stack.step setting)
  | frame {stack : FrameStack} {opened : Opened} {openings : List Opened} {raw result : FrameResult}
      {after : Machine} {left : Journal}
      (underway : Underway setting attempt journal stack (opened :: openings))
      (step : stack.machine.step setting = (some (.finish raw), after))
      (settles : settle setting.rules after.journal stack.current.kind stack.current.checkpoint raw =
        (result, left)) :
      Ends setting attempt journal opened after.frame.gas result left (stack.step setting)

/-- Who gets a result and a journal: nobody after the outermost attempt, or the frame that waits. -/
inductive HandsOver (result : FrameResult) (left : Journal) : Option Activation → Progress → Prop
    where
  | out (ticks : Nat) : HandsOver result left none (.ended (.finished ⟨result, left, ticks⟩))
  | back {caller resumed : Activation} (parents : List Activation) (ticks : Nat)
      (resumes : caller.ResumedWith result resumed) :
      HandsOver result left (some caller) (.running ⟨resumed, parents, left, ticks⟩)

variable {setting : Setting} {attempt : Attempt} {journal left : Journal} {stack : FrameStack}
  {opened : Opened} {openings : List Opened} {remaining : Nat} {result : FrameResult}
  {next : Progress}

theorem kind_of_enter {asked : Attempt} {kind : FrameKind}
    (enters : asked.enter setting journal = (.done kind result, left)) :
    kind = asked.kind setting journal := by
  have begins := asked.begins_enter setting journal
  rw [enters] at begins
  cases begins <;> rfl

theorem handsOver_resumeWith {caller : Activation} {kind : FrameKind} (room : caller.HasRoom kind)
    (parents : List Activation) (ticks : Nat) :
    HandsOver result left (some caller) (resumeWith caller parents kind result left ticks) := by
  obtain ⟨resumed, resumes⟩ := Activation.resume?_of_hasRoom room result
  rw [resumeWith, resumes]
  exact .back parents ticks (Activation.resumedWith_of_resume? resumes)

/-- The frame that waits always goes on, with its own gas and what the result gives back. -/
theorem Ends.handsOver (ends : Ends setting attempt journal opened remaining result left next) :
    HandsOver result left opened.caller next := by
  cases ends with
  | outright enters => exact .out 0
  | @atOnce stack openings action after asked kind result left underway step asks enters =>
    rw [step_of_attempt step asks, enters]
    apply handsOver_resumeWith
    rw [kind_of_enter enters]
    exact hasRoom_of_step step asks rfl
  | @frame stack opened openings raw result after left underway step settles =>
    have nested := underway.nested
    rw [step_of_finish step, settles]
    cases parents : stack.parents with
    | nil =>
      rw [parents] at nested
      cases nested with
      | outermost serves alone =>
        rw [alone]
        exact .out _
    | cons caller callers =>
      rw [parents] at nested
      cases nested with
      | inner serves waits room outer =>
        rw [waits]
        exact handsOver_resumeWith room callers _

theorem Underway.getLast?_eq (underway : Underway setting attempt journal stack openings) :
    openings.getLast? = some ⟨attempt, journal, none⟩ := by
  induction underway with
  | start enters => rfl
  | @step stack next openings underway steps ih =>
    have nested := underway.nested
    have transition := transition_of_step openings steps
    generalize stack.track setting openings = later at transition ⊢
    cases transition with
    | stay step => exact ih
    | resume step asks enters resumes => exact ih
    | enter step asks enters => simp [List.getLast?_cons, ih]
    | leave step settles waiting resumes =>
      rw [waiting] at nested
      cases nested with
      | inner serves waits room outer =>
        obtain ⟨second, rest, same, served⟩ := outer.exists_served
        subst same
        simpa using ih

theorem action_of_ended {ending : Ending}
    (underway : Underway setting attempt journal stack openings)
    (steps : stack.step setting = .ended ending) :
    (∃ raw after, stack.machine.step setting = (some (.finish raw), after)) ∨
      ∃ after, stack.machine.step setting = (some .overflow, after) := by
  cases step : stack.machine.step setting with
  | mk action after =>
  cases action with
  | none =>
    rw [step_of_none step] at steps
    cases steps
  | some action =>
    cases asks : action.attempt? with
    | some asked =>
      cases enters : asked.enter setting after.journal with
      | mk entry left =>
      cases entry with
      | run child =>
        rw [step_of_attempt step asks, enters] at steps
        cases steps
      | done kind result =>
        have handed := (Ends.atOnce underway step asks enters).handsOver
        rw [steps] at handed
        cases handed
    | none =>
      cases action with
      | call request | create request => cases asks
      | overflow => exact .inr ⟨after, rfl⟩
      | finish raw => exact .inl ⟨raw, after, rfl⟩

theorem finish_of_finished {completion : Completion}
    (underway : Underway setting attempt journal stack openings)
    (steps : stack.step setting = .ended (.finished completion)) :
    ∃ raw after, stack.machine.step setting = (some (.finish raw), after) := by
  rcases action_of_ended underway steps with finishes | ⟨after, overflows⟩
  · exact finishes
  · rw [step_of_overflow overflows] at steps
    cases steps

theorem overflow_of_overflowed {ticks : Nat}
    (underway : Underway setting attempt journal stack openings)
    (steps : stack.step setting = .ended (.overflowed ticks)) :
    ∃ after, stack.machine.step setting = (some .overflow, after) := by
  rcases action_of_ended underway steps with ⟨raw, after, finishes⟩ | overflows
  · obtain ⟨opened, outer, same, serves⟩ := underway.nested.exists_served
    subst same
    have handed := (Ends.frame underway finishes rfl).handsOver
    rw [steps] at handed
    generalize opened.caller = caller at handed
    cases handed
  · exact overflows

theorem ends_of_finished {completion : Completion}
    (underway : Underway setting attempt journal stack openings)
    (steps : stack.step setting = .ended (.finished completion)) :
    ∃ remaining, Ends setting attempt journal ⟨attempt, journal, none⟩ remaining completion.result
      completion.journal (.ended (.finished completion)) := by
  have nested := underway.nested
  obtain ⟨opened, outer, same, serves⟩ := nested.exists_served
  subst same
  obtain ⟨raw, after, step⟩ := finish_of_finished underway steps
  cases settles : settle setting.rules after.journal stack.current.kind stack.current.checkpoint
    raw with
  | mk result left =>
  have ends := Ends.frame underway step settles
  have handed := ends.handsOver
  rw [steps] at ends handed
  cases alone : opened.caller with
  | some caller =>
    rw [alone] at handed
    cases handed
  | none =>
    rw [alone] at handed
    cases handed with
    | out ticks =>
      have last := underway.getLast?_eq
      have outermost := nested.alone alone
      rw [outermost, List.getLast?_singleton] at last
      rw [Option.some.inj last] at ends
      exact ⟨_, ends⟩

theorem ends_of_run {completion : Completion} {steps : Nat}
    (underway : Underway setting attempt journal stack openings)
    (finishes : run setting steps stack = some (.finished completion)) :
    ∃ remaining, Ends setting attempt journal ⟨attempt, journal, none⟩ remaining completion.result
      completion.journal (.ended (.finished completion)) := by
  induction steps generalizing stack openings with
  | zero => cases finishes
  | succ steps ih =>
    rw [run] at finishes
    split at finishes
    · rename_i next going
      exact ih (underway.step going) finishes
    · rename_i last ended
      cases finishes
      exact ends_of_finished underway ended

theorem overflow_of_run {steps ticks : Nat}
    (underway : Underway setting attempt journal stack openings)
    (stops : run setting steps stack = some (.overflowed ticks)) :
    ∃ last later after, Underway setting attempt journal last later ∧
      last.machine.step setting = (some .overflow, after) := by
  induction steps generalizing stack openings with
  | zero => cases stops
  | succ steps ih =>
    rw [run] at stops
    split at stops
    · rename_i next going
      exact ih (underway.step going) stops
    · rename_i last ended
      cases stops
      obtain ⟨after, step⟩ := overflow_of_overflowed underway ended
      exact ⟨stack, openings, after, underway, step⟩

theorem overflow_of_runEntry {steps ticks : Nat}
    (stops : runEntry setting steps (attempt.enter setting journal).1
      (attempt.enter setting journal).2 = some (.overflowed ticks)) :
    ∃ last later after, Underway setting attempt journal last later ∧
      last.machine.step setting = (some .overflow, after) := by
  cases enters : attempt.enter setting journal with
  | mk entry left =>
  rw [enters] at stops
  cases entry with
  | run activation => exact overflow_of_run (.start enters) stops
  | done kind result => cases stops

theorem ends_of_runEntry {completion : Completion} {steps : Nat}
    (finishes : runEntry setting steps (attempt.enter setting journal).1
      (attempt.enter setting journal).2 = some (.finished completion)) :
    ∃ remaining, Ends setting attempt journal ⟨attempt, journal, none⟩ remaining completion.result
      completion.journal (.ended (.finished completion)) := by
  cases enters : attempt.enter setting journal with
  | mk entry left =>
  rw [enters] at finishes
  cases entry with
  | run activation => exact ends_of_run (.start enters) finishes
  | done kind result =>
    cases finishes
    exact ⟨_, .outright enters⟩

end FrameStack

end StateTransition.Evm
