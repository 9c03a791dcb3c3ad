import StateTransition.Proofs.FrameStack.Endings

/-!
Invariants that know the frame. Each frame of a stack acts in the context of its attempt, and the
frame below asked for that attempt. What a frame may rely on is kept by its own steps, by the
attempts it asks for, and by what they hand back.
-/

namespace StateTransition.Evm

def Opened.context (opened : Opened) : CallContext := opened.attempt.context opened.journal

def Opened.kind (setting : Setting) (opened : Opened) : FrameKind :=
  opened.attempt.kind setting opened.journal

theorem Machine.askedBy_of_step {setting : Setting} {machine after : Machine} {action : Action}
    {asked : Attempt} (step : machine.step setting = (some action, after))
    (asks : action.attempt? = some asked) :
    asked.AskedBy setting.rules machine.frame.context := by
  have backed := backed_of_step step
  cases action with
  | call request =>
    cases asks
    exact CallRequest.Issued.asked backed
  | create request =>
    cases asks
    exact CreateRequest.Issued.asked backed
  | finish result | overflow => cases asks

theorem Machine.aimed_of_step {setting : Setting} {machine after : Machine} {action : Action}
    {asked : Attempt} (step : machine.step setting = (some action, after))
    (asks : action.attempt? = some asked) : asked.Aimed setting.rules after.journal := by
  have backed := backed_of_step step
  cases action with
  | call request =>
    cases asks
    exact CallRequest.Issued.aimed backed
  | create request =>
    cases asks
    trivial
  | finish result | overflow => cases asks

namespace Attempt

variable {setting : Setting} {journal entered left : Journal} {asked : Attempt}

theorem opens_of_run {child : Activation}
    (enters : asked.enter setting journal = (.run child, entered)) :
    asked.Opens setting journal entered := by
  have begins := asked.begins_enter setting journal
  rw [enters] at begins
  cases begins with
  | runs opens code => exact opens

theorem context_of_run {child : Activation}
    (enters : asked.enter setting journal = (.run child, entered)) :
    child.frame.context = asked.context journal := by
  have begins := asked.begins_enter setting journal
  rw [enters] at begins
  cases begins with
  | runs opens code => rfl

theorem left_of_done {kind : FrameKind} {result : FrameResult}
    (enters : asked.enter setting journal = (.done kind result, left)) :
    left = asked.base setting journal ∨ asked.Opens setting journal left := by
  have begins := asked.begins_enter setting journal
  rw [enters] at begins
  cases begins with
  | fails failed returns => exact .inl rfl
  | idles => exact .inl rfl
  | completes opens succeeded left => exact .inr opens

end Attempt

namespace FrameStack

variable {setting : Setting} {attempt : Attempt} {journal : Journal} {stack next : FrameStack}
  {openings later : List Opened}

theorem context_of_step {action : Option Action} {after : Machine}
    (step : stack.machine.step setting = (action, after)) :
    after.frame.context = stack.current.frame.context :=
  (Machine.effects_of_step step).context_eq

def contexts (stack : FrameStack) : List CallContext :=
  (stack.current :: stack.parents).map fun activation => activation.frame.context

theorem Transition.contexts (transition : Transition setting stack openings next later)
    (same : stack.contexts = openings.map Opened.context) :
    next.contexts = later.map Opened.context := by
  simp only [FrameStack.contexts, List.map_cons] at same ⊢
  cases transition with
  | stay step =>
    rw [← same]
    exact congrArg (· :: _) (context_of_step step)
  | enter step asks enters =>
    have waiting := context_of_step step
    have child := Attempt.context_of_run enters
    simp only [List.map_cons, continued, waiting, same, child]
    rfl
  | resume step asks enters resumes =>
    have resumed := (Activation.resumedWith_of_resume? resumes).context
    rw [← same]
    exact congrArg (· :: _) (resumed.trans (context_of_step step))
  | leave step settles waiting resumes =>
    have resumed := (Activation.resumedWith_of_resume? resumes).context
    rw [waiting, List.map_cons, ← resumed] at same
    rw [List.map_tail, ← same]
    rfl

theorem Underway.contexts (underway : Underway setting attempt journal stack openings) :
    stack.contexts = openings.map Opened.context := by
  induction underway with
  | start enters => exact congrArg (fun context => [context]) (Attempt.context_of_run enters)
  | step underway steps ih => exact (transition_of_step _ steps).contexts ih

theorem Underway.context {opened : Opened} {outer : List Opened}
    (underway : Underway setting attempt journal stack (opened :: outer)) :
    stack.current.frame.context = opened.context :=
  (List.cons.inj underway.contexts).1

/-- What frames may rely on while an attempt is made. -/
structure FrameInvariant (setting : Setting) (attempt : Attempt) (journal : Journal)
    (serves : Opened → Journal → Prop) : Prop where
  start : ∀ {child : Activation} {entered : Journal},
    attempt.enter setting journal = (.run child, entered) → serves ⟨attempt, journal, none⟩ entered
  step : ∀ {stack : FrameStack} {opened : Opened} {outer : List Opened} {action : Option Action}
    {after : Machine}, Underway setting attempt journal stack (opened :: outer) →
    stack.machine.step setting = (action, after) → serves opened stack.journal →
    serves opened after.journal
  base : ∀ {opened : Opened} {asked : Attempt} {here : Journal}, serves opened here →
    asked.AskedBy setting.rules opened.context → asked.Aimed setting.rules here →
    serves opened (asked.base setting here)
  opens : ∀ {opened : Opened} {asked : Attempt} {here entered : Journal}, serves opened here →
    asked.AskedBy setting.rules opened.context → asked.Aimed setting.rules here →
    asked.Opens setting here entered → serves opened entered
  runs : ∀ {opened : Opened} {asked : Attempt} {here entered : Journal} {child : Activation}
    (caller : Option Activation), serves opened here →
    asked.AskedBy setting.rules opened.context → asked.Aimed setting.rules here →
    asked.enter setting here = (.run child, entered) → serves ⟨asked, here, caller⟩ entered
  deploys : ∀ {opened : Opened} {here : Journal} {address : Address} (code : Bytes),
    serves opened here → opened.kind setting = .create address →
    serves opened (here.setCode address code)
  keeps : ∀ {opened child : Opened} {left : Journal}, serves opened child.journal →
    child.attempt.AskedBy setting.rules opened.context → serves child left → serves opened left

/-- The running frame serves its attempt, and each frame that waits did when it asked. -/
inductive Serving (setting : Setting) (serves : Opened → Journal → Prop) :
    List Opened → Journal → Prop where
  | outermost {opened : Opened} {here : Journal} (holds : serves opened here) :
      Serving setting serves [opened] here
  | inner {opened parent : Opened} {outer : List Opened} {here : Journal}
      (holds : serves opened here) (asked : opened.attempt.AskedBy setting.rules parent.context)
      (aimed : opened.attempt.Aimed setting.rules opened.journal)
      (below : Serving setting serves (parent :: outer) opened.journal) :
      Serving setting serves (opened :: parent :: outer) here

namespace Serving

variable {serves : Opened → Journal → Prop} {opened : Opened} {outer : List Opened}
  {here there : Journal}

theorem holds (serving : Serving setting serves (opened :: outer) here) : serves opened here := by
  cases serving with
  | outermost holds => exact holds
  | inner holds asked aimed below => exact holds

theorem advance (serving : Serving setting serves (opened :: outer) here)
    (holds : serves opened there) : Serving setting serves (opened :: outer) there := by
  cases serving with
  | outermost _ => exact .outermost holds
  | inner _ asked aimed below => exact .inner holds asked aimed below

end Serving

namespace FrameInvariant

variable {serves : Opened → Journal → Prop} {opened child : Opened} {here left : Journal}
  {result : FrameResult} {remaining : Nat}

theorem settles (invariant : FrameInvariant setting attempt journal serves)
    (holds : serves opened here)
    (settled : Settles (opened.base setting) (opened.kind setting) remaining here (result, left)) :
    left = opened.base setting ∨ serves opened left := by
  generalize kind : opened.kind setting = made at settled
  cases settled with
  | fails failed returns => exact .inl rfl
  | keeps succeeded left => exact .inr holds
  | deploys code created succeeded left =>
    exact .inr (invariant.deploys code holds (kind.trans created))

theorem returns (invariant : FrameInvariant setting attempt journal serves)
    (waits : serves opened child.journal)
    (asked : child.attempt.AskedBy setting.rules opened.context)
    (aimed : child.attempt.Aimed setting.rules child.journal)
    (handed : left = child.base setting ∨ serves child left) : serves opened left := by
  rcases handed with based | served
  · rw [based]
    exact invariant.base waits asked aimed
  · exact invariant.keeps waits asked served

theorem done {kind : FrameKind} {asked : Attempt}
    (invariant : FrameInvariant setting attempt journal serves) (holds : serves opened here)
    (asks : asked.AskedBy setting.rules opened.context) (aimed : asked.Aimed setting.rules here)
    (enters : asked.enter setting here = (.done kind result, left)) : serves opened left := by
  rcases Attempt.left_of_done enters with based | opens
  · rw [based]
    exact invariant.base holds asks aimed
  · exact invariant.opens holds asks aimed opens

end FrameInvariant

variable {serves : Opened → Journal → Prop}

theorem Transition.serving (invariant : FrameInvariant setting attempt journal serves)
    (underway : Underway setting attempt journal stack openings)
    (transition : Transition setting stack openings next later)
    (serving : Serving setting serves openings stack.journal) :
    Serving setting serves later next.journal := by
  obtain ⟨opened, outer, same, served⟩ := underway.nested.exists_served
  subst same
  have context := underway.context
  cases transition with
  | stay step => exact serving.advance (invariant.step underway step serving.holds)
  | @enter action after asked child entered step asks enters =>
    have here := invariant.step underway step serving.holds
    have aimed := Machine.aimed_of_step step asks
    have asked := Machine.askedBy_of_step step asks
    rw [machine, context] at asked
    exact .inner (invariant.runs _ here asked aimed enters) asked aimed (serving.advance here)
  | @resume action after asked kind result left resumed step asks enters resumes =>
    have here := invariant.step underway step serving.holds
    have aimed := Machine.aimed_of_step step asks
    have asked := Machine.askedBy_of_step step asks
    rw [machine, context] at asked
    exact serving.advance (invariant.done here asked aimed enters)
  | @leave raw result after left caller resumed callers step settles waiting resumes =>
    have here := invariant.step underway step serving.holds
    have settled := settles_of_step served step
    rw [settles, served.kind] at settled
    have nested := underway.nested
    rw [waiting] at nested
    cases serving with
    -- a frame waits, so the one that is done was not the outermost
    | outermost holds => cases nested with
      | inner _ _ _ outer => cases outer
    | inner holds asked aimed below =>
      exact below.advance (invariant.returns below.holds asked aimed
        (invariant.settles here settled))

theorem Underway.serving (invariant : FrameInvariant setting attempt journal serves)
    (underway : Underway setting attempt journal stack openings) :
    Serving setting serves openings stack.journal := by
  induction underway with
  | start enters => exact .outermost (invariant.start enters)
  | step underway steps ih => exact (transition_of_step _ steps).serving invariant underway ih

section

variable {opened : Opened} {remaining : Nat} {result : FrameResult} {left : Journal}
  {progress : Progress}

theorem Ends.asked_cases (invariant : FrameInvariant setting attempt journal serves)
    (ends : Ends setting attempt journal opened remaining result left progress) :
    opened = ⟨attempt, journal, none⟩ ∨
      ∃ parent, serves parent opened.journal ∧
        opened.attempt.AskedBy setting.rules parent.context := by
  cases ends with
  | outright enters => exact .inl rfl
  | @atOnce stack openings action after asked kind result left underway step asks enters =>
    obtain ⟨parent, outer, same, served⟩ := underway.nested.exists_served
    subst same
    have here := invariant.step underway step (underway.serving invariant).holds
    have asked := Machine.askedBy_of_step step asks
    rw [machine, underway.context] at asked
    exact .inr ⟨parent, here, asked⟩
  | @frame stack opened openings raw result after left underway step settles =>
    have last := underway.getLast?_eq
    cases underway.serving invariant with
    | outermost holds =>
      rw [List.getLast?_singleton] at last
      exact .inl (Option.some.inj last)
    | inner holds asked aimed below => exact .inr ⟨_, below.holds, asked⟩

theorem Ends.left_cases (invariant : FrameInvariant setting attempt journal serves)
    (ends : Ends setting attempt journal opened remaining result left progress) :
    left = opened.base setting ∨ serves opened left ∨
      opened.attempt.Opens setting opened.journal left ∧
        (opened = ⟨attempt, journal, none⟩ ∨
          ∃ parent, serves parent opened.journal ∧
            opened.attempt.AskedBy setting.rules parent.context) := by
  have asked := ends.asked_cases invariant
  cases ends with
  | outright enters =>
    rcases Attempt.left_of_done enters with based | opens
    · exact .inl based
    · exact .inr (.inr ⟨opens, asked⟩)
  | atOnce underway step asks enters =>
    rcases Attempt.left_of_done enters with based | opens
    · exact .inl based
    · exact .inr (.inr ⟨opens, asked⟩)
  | @frame stack opened openings raw result after left underway step settles =>
    obtain ⟨first, outer, same, served⟩ := underway.nested.exists_served
    cases same
    have here := invariant.step underway step (underway.serving invariant).holds
    have settled := settles_of_step served step
    rw [settles, served.kind] at settled
    rcases invariant.settles here settled with based | kept
    · exact .inl based
    · exact .inr (.inl kept)

end

end FrameStack

end StateTransition.Evm
