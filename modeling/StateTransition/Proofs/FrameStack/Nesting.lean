import StateTransition.Proofs.FrameStack.Underway

/-!
How the frames of a stack nest. The journal of a running frame extends the base of its attempt, the
frame that waits below is as it was when the attempt was made, and has room for the output.
-/

namespace StateTransition.Evm

/-- A frame that goes on with the result of a child. -/
structure Activation.ResumedWith (waiting : Activation) (result : FrameResult)
    (resumed : Activation) : Prop where
  kind : resumed.kind = waiting.kind
  checkpoint : resumed.checkpoint = waiting.checkpoint
  context : resumed.frame.context = waiting.frame.context
  gas : resumed.frame.gas = waiting.frame.gas + result.gasLeft

def Activation.HasRoom (waiting : Activation) : FrameKind → Prop
  | .call offset size => waiting.frame.memory.covers offset size
  | .create _ => True

namespace Frame

@[simp] theorem context_pushResult (frame : Frame) (word : Word) :
    (frame.pushResult word).context = frame.context := by
  rw [pushResult]
  split <;> rfl

@[simp] theorem gas_pushResult (frame : Frame) (word : Word) :
    (frame.pushResult word).gas = frame.gas := by
  rw [pushResult]
  split <;> rfl

end Frame

namespace Activation

variable {waiting resumed : Activation} {kind : FrameKind} {result : FrameResult}

theorem resumedWith_of_resume? (resumes : waiting.resume? kind result = some resumed) :
    waiting.ResumedWith result resumed := by
  cases kind with
  | create address =>
    cases resumes
    constructor <;> simp [Frame.resumeCreate]
  | call offset size =>
    obtain ⟨frame, framed, same⟩ := Option.map_eq_some_iff.mp resumes
    obtain ⟨memory, stored, built⟩ := Option.map_eq_some_iff.mp framed
    subst same
    subst built
    constructor <;> simp

theorem resume?_of_hasRoom (room : waiting.HasRoom kind) (result : FrameResult) :
    ∃ resumed, waiting.resume? kind result = some resumed := by
  cases kind with
  | create address => exact ⟨_, rfl⟩
  | call offset size =>
    have short : (if result.isHalt then [] else result.output.take size).length ≤ size := by
      split
      · exact Nat.zero_le _
      · rw [List.length_take]
        exact Nat.min_le_left _ _
    have covered := Memory.covers_mono room short
    simp only [resume?, Frame.resumeCall?, Memory.storeSlice?, if_pos covered, Option.map_some]
    exact ⟨_, rfl⟩

end Activation

/-- A running frame and the attempt behind it. -/
structure Opened.ServedBy (setting : Setting) (opened : Opened) (current : Activation)
    (journal : Journal) : Prop where
  kind : current.kind = opened.attempt.kind setting opened.journal
  checkpoint : current.checkpoint = (opened.base setting).checkpoint
  extension : Journal.Extends (opened.base setting) journal

inductive Nested (setting : Setting) : Activation → List Activation → Journal → List Opened →
    Prop where
  | outermost {opened : Opened} {current : Activation} {journal : Journal}
      (serves : opened.ServedBy setting current journal) (alone : opened.caller = none) :
      Nested setting current [] journal [opened]
  | inner {opened : Opened} {current caller : Activation} {journal : Journal}
      {callers : List Activation} {openings : List Opened}
      (serves : opened.ServedBy setting current journal) (waits : opened.caller = some caller)
      (room : caller.HasRoom current.kind)
      (outer : Nested setting caller callers opened.journal openings) :
      Nested setting current (caller :: callers) journal (opened :: openings)

namespace Nested

variable {setting : Setting} {current next : Activation} {parents : List Activation}
  {journal later : Journal} {openings : List Opened}

theorem advance (nested : Nested setting current parents journal openings)
    (kind : next.kind = current.kind) (checkpoint : next.checkpoint = current.checkpoint)
    (extension : Journal.Extends journal later) :
    Nested setting next parents later openings := by
  cases nested with
  | outermost serves alone =>
    exact .outermost ⟨kind.trans serves.kind, checkpoint.trans serves.checkpoint,
      serves.extension.trans extension⟩ alone
  | inner serves waits room outer =>
    rw [← kind] at room
    exact .inner ⟨kind.trans serves.kind, checkpoint.trans serves.checkpoint,
      serves.extension.trans extension⟩ waits room outer

theorem exists_served (nested : Nested setting current parents journal openings) :
    ∃ opened outer, openings = opened :: outer ∧ opened.ServedBy setting current journal := by
  cases nested with
  | outermost serves alone => exact ⟨_, _, rfl, serves⟩
  | inner serves waits room outer => exact ⟨_, _, rfl, serves⟩

theorem alone {opened : Opened} {outer : List Opened}
    (nested : Nested setting current parents journal (opened :: outer))
    (alone : opened.caller = none) : outer = [] := by
  cases nested with
  | outermost serves alone => rfl
  | inner serves waits room outer =>
    rw [alone] at waits
    cases waits

end Nested

theorem Begins.extends {base : Journal} {kind : FrameKind} {context : CallContext} {gas : Nat}
    {Opens : Journal → Prop} {start : Entry × Journal}
    (begins : Begins base kind context gas Opens start)
    (opened : ∀ journal, Opens journal → Journal.Extends base journal) :
    Journal.Extends base start.2 := by
  cases begins with
  | fails failed returns => exact .refl base
  | idles => exact .refl base
  | completes opens succeeded left => exact opened _ opens
  | runs opens code => exact opened _ opens

theorem Settles.extends {base journal : Journal} {kind : FrameKind} {remaining : Nat}
    {settled : FrameResult × Journal} (settles : Settles base kind remaining journal settled)
    (extension : Journal.Extends base journal) : Journal.Extends base settled.2 := by
  cases settles with
  | fails failed returns => exact .refl base
  | keeps succeeded left => exact extension
  | deploys code created succeeded left =>
    exact extension.trans (Journal.extends_setCode journal _ code)

namespace Attempt

variable {setting : Setting} {journal after : Journal} {attempt : Attempt}

theorem extends_enter (setting : Setting) (journal : Journal) (attempt : Attempt) :
    Journal.Extends (attempt.base setting journal) (attempt.enter setting journal).2 :=
  (begins_enter setting journal attempt).extends fun _ opens => opens.extends

theorem served_of_enter {child : Activation} (caller : Option Activation)
    (enters : attempt.enter setting journal = (.run child, after)) :
    (⟨attempt, journal, caller⟩ : Opened).ServedBy setting child after := by
  have begins := begins_enter setting journal attempt
  rw [enters] at begins
  cases begins with
  | runs opens code => exact ⟨rfl, rfl, opens.extends⟩

end Attempt

namespace FrameStack

variable {setting : Setting} {attempt : Attempt} {journal : Journal} {stack next : FrameStack}
  {openings later : List Opened}

theorem hasRoom_of_step {action : Action} {after : Machine} {asked : Attempt} {waiting : Activation}
    (step : stack.machine.step setting = (some action, after))
    (asks : action.attempt? = some asked) (frame : waiting.frame = after.frame) :
    waiting.HasRoom (asked.kind setting after.journal) := by
  have backed := Machine.backed_of_step step
  cases action with
  | call request =>
    cases asks
    have room := CallRequest.Issued.room backed
    rw [← frame] at room
    exact room
  | create request =>
    cases asks
    trivial
  | finish result | overflow => cases asks

theorem extends_of_step {action : Option Action} {after : Machine}
    (step : stack.machine.step setting = (action, after)) :
    Journal.Extends stack.journal after.journal :=
  .effects (Machine.effects_of_step step)

theorem settles_of_step {opened : Opened} {raw : FrameResult} {after : Machine}
    (serves : opened.ServedBy setting stack.current stack.journal)
    (step : stack.machine.step setting = (some (.finish raw), after)) :
    Settles (opened.base setting) stack.current.kind after.frame.gas after.journal
      (settle setting.rules after.journal stack.current.kind stack.current.checkpoint raw) := by
  have returns : raw.Returns after.frame.gas := Machine.backed_of_step step
  have extension := serves.extension.trans (extends_of_step step)
  rw [serves.checkpoint]
  exact settles_settle setting.rules stack.current.kind returns extension

theorem Transition.nested (transition : Transition setting stack openings next later)
    (nested : Nested setting stack.current stack.parents stack.journal openings) :
    Nested setting next.current next.parents next.journal later := by
  cases transition with
  | stay step => exact nested.advance rfl rfl (extends_of_step step)
  | @enter action after asked child opened step asks enters =>
    have waiting : Nested setting (stack.continued after) stack.parents after.journal openings :=
      nested.advance rfl rfl (extends_of_step step)
    have serves := Attempt.served_of_enter (some (stack.continued after)) enters
    apply Nested.inner serves rfl
    · rw [serves.kind]
      exact hasRoom_of_step step asks rfl
    · exact waiting
  | @resume action after asked kind result left resumed step asks enters resumes =>
    have same := Activation.resumedWith_of_resume? resumes
    have entered := Attempt.extends_enter setting after.journal asked
    rw [enters] at entered
    exact nested.advance same.kind same.checkpoint
      (((extends_of_step step).trans (asked.extends_base setting after.journal)).trans entered)
  | @leave raw result after left caller resumed callers step settles waiting resumes =>
    have same := Activation.resumedWith_of_resume? resumes
    rw [waiting] at nested
    cases nested with
    | @inner opened _ _ _ _ outerOpenings serves waits room outer =>
      have settled := settles_of_step serves step
      rw [settles] at settled
      have based := opened.attempt.extends_base setting opened.journal
      have extension := settled.extends (serves.extension.trans (extends_of_step step))
      exact outer.advance same.kind same.checkpoint (based.trans extension)

theorem Underway.nested (underway : Underway setting attempt journal stack openings) :
    Nested setting stack.current stack.parents stack.journal openings := by
  induction underway with
  | start enters => exact .outermost (Attempt.served_of_enter none enters) rfl
  | step underway steps ih => exact (transition_of_step _ steps).nested ih

end FrameStack

end StateTransition.Evm
