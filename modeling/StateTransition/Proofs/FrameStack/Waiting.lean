import Mathlib.Data.List.Chain
import Mathlib.Order.Basic
import StateTransition.Proofs.FrameStack.Faults
import StateTransition.Proofs.FrameStack.Static

/-!
The order of the frames on a stack. From the outermost frame to the running one each lies one deeper
than the one before, none took its checkpoint earlier, and each frame but the last waits for the
next one and for no other.
-/

namespace StateTransition.Evm

instance : Preorder Checkpoint := .lift fun checkpoint => (checkpoint.changes, checkpoint.logs)

theorem Journal.Extends.checkpoint_mono {earlier later : Journal}
    (extension : Journal.Extends earlier later) : earlier.checkpoint ≤ later.checkpoint :=
  extension.checkpoint_le

variable {setting : Setting} {current : Activation} {parents : List Activation}
  {journal : Journal} {opened : Opened} {openings : List Opened}

theorem Opened.ServedBy.checkpoint_between (serves : opened.ServedBy setting current journal) :
    opened.journal.checkpoint ≤ current.checkpoint ∧ current.checkpoint ≤ journal.checkpoint := by
  rw [serves.checkpoint]
  exact ⟨(opened.attempt.extends_base setting opened.journal).checkpoint_mono,
    serves.extension.checkpoint_mono⟩

namespace Nested

theorem checkpoint_le (nested : Nested setting current parents journal openings) :
    ∀ frame ∈ current :: parents, frame.checkpoint ≤ journal.checkpoint := by
  induction nested with
  | outermost serves alone =>
    intro frame member
    rw [List.mem_singleton.mp member]
    exact serves.checkpoint_between.2
  | inner serves waits room outer ih =>
    intro frame member
    obtain ⟨after, before⟩ := serves.checkpoint_between
    rcases List.mem_cons.mp member with same | below
    · rw [same]
      exact before
    · exact ((ih frame below).trans after).trans before

theorem pairwise_checkpoint (nested : Nested setting current parents journal openings) :
    (current :: parents).Pairwise fun inner outer => outer.checkpoint ≤ inner.checkpoint := by
  induction nested with
  | outermost serves alone => exact List.pairwise_singleton _ _
  | inner serves waits room outer ih =>
    refine List.pairwise_cons.mpr ⟨?_, ih⟩
    intro frame below
    exact (outer.checkpoint_le frame below).trans serves.checkpoint_between.1

theorem le_checkpoint (nested : Nested setting current parents journal openings)
    (first : openings.getLast? = some opened) :
    ∀ frame ∈ current :: parents, opened.journal.checkpoint ≤ frame.checkpoint := by
  induction nested with
  | outermost serves alone =>
    intro frame member
    rw [List.mem_singleton.mp member, ← Option.some.inj first]
    exact serves.checkpoint_between.1
  | @inner asked current caller journal callers openings serves waits room outer ih =>
    obtain ⟨parent, rest, same, served⟩ := outer.exists_served
    rw [same, List.getLast?_cons_cons, ← same] at first
    intro frame member
    rcases List.mem_cons.mp member with top | below
    · have start := ih first caller List.mem_cons_self
      have asking := outer.checkpoint_le caller List.mem_cons_self
      rw [top]
      exact (start.trans asking).trans serves.checkpoint_between.1
    · exact ih first frame below

end Nested

namespace Activation

/-- A later state of a frame: it may have run, but what it is for is the same. -/
structure Continues (start later : Activation) : Prop where
  kind : later.kind = start.kind
  checkpoint : later.checkpoint = start.checkpoint
  context : later.frame.context = start.frame.context

/-- With its last instruction a frame asked for an attempt, and the child is the frame that this
attempt was given. -/
inductive WaitsFor (setting : Setting) (waiting child : Activation) : Prop where
  | asked {machine : Machine} {action : Action} {journal entered : Journal} {attempt : Attempt}
      {start : Activation} (step : machine.step setting = (some action, ⟨waiting.frame, journal⟩))
      (asks : action.attempt? = some attempt)
      (enters : attempt.enter setting journal = (.run start, entered))
      (continues : start.Continues child) : WaitsFor setting waiting child

def depth (activation : Activation) : Nat := activation.frame.context.depth

end Activation

theorem Attempt.kind_of_run {attempt : Attempt} {start : Activation} {entered : Journal}
    (enters : attempt.enter setting journal = (.run start, entered)) :
    start.kind = attempt.kind setting journal := by
  have begins := attempt.begins_enter setting journal
  rw [enters] at begins
  cases begins with
  | runs opens code => rfl

theorem Attempt.depth_of_run {attempt : Attempt} {start : Activation} {entered : Journal}
    {context : CallContext} (asked : attempt.AskedBy setting.rules context)
    (enters : attempt.enter setting journal = (.run start, entered)) :
    start.depth = context.depth + 1 ∧ start.depth ≤ setting.rules.amount .callDepthLimit := by
  have opens := opens_of_run enters
  rw [Activation.depth, context_of_run enters]
  cases attempt with
  | call request =>
    have accepted := CallRequest.Opens.accepted opens
    simp only [refusesCall, depthExceeded, Bool.or_eq_false_iff, decide_eq_false_iff_not,
      Nat.not_lt] at accepted
    exact ⟨CallRequest.AskedBy.depth asked, accepted.1⟩
  | create request =>
    have accepted : refusesCreate setting.rules journal request = false := opens.1
    simp only [refusesCreate, depthExceeded, Bool.or_eq_false_iff, decide_eq_false_iff_not,
      Nat.not_lt] at accepted
    exact ⟨CreateRequest.AskedBy.depth asked, accepted.1.1⟩
  | deploy request address => cases asked

namespace Activation.WaitsFor

variable {waiting child later : Activation}

theorem advance (waits : waiting.WaitsFor setting child) (kind : later.kind = child.kind)
    (checkpoint : later.checkpoint = child.checkpoint)
    (context : later.frame.context = child.frame.context) : waiting.WaitsFor setting later := by
  cases waits with
  | asked step asks enters continues =>
    exact .asked step asks enters ⟨kind.trans continues.kind,
      checkpoint.trans continues.checkpoint, context.trans continues.context⟩

theorem awaits (waits : waiting.WaitsFor setting child) : waiting.Awaits child.kind := by
  cases waits with
  | asked step asks enters continues =>
    obtain ⟨control, run, wants⟩ := Machine.exec_of_step_asks step asks
    rw [continues.kind, Attempt.kind_of_run enters]
    exact Machine.awaits_of_asks run wants rfl _

theorem depth (waits : waiting.WaitsFor setting child) :
    child.depth = waiting.depth + 1 ∧ child.depth ≤ setting.rules.amount .callDepthLimit := by
  cases waits with
  | asked step asks enters continues =>
    have context := (Machine.effects_of_step step).context_eq
    have deep := Attempt.depth_of_run (Machine.askedBy_of_step step asks) enters
    rw [Activation.depth, continues.context, Activation.depth, context]
    exact deep

end Activation.WaitsFor

namespace FrameStack

variable {attempt : Attempt} {stack next : FrameStack} {later : List Opened}

/-- The frames of a stack, the outermost one first. -/
def frames (stack : FrameStack) : List Activation := (stack.current :: stack.parents).reverse

/-- From the running frame down, each frame is waited for by the next one. -/
def Chained (setting : Setting) (stack : FrameStack) : Prop :=
  (stack.current :: stack.parents).IsChain fun child waiting => waiting.WaitsFor setting child

theorem Transition.chained (transition : Transition setting stack openings next later)
    (chained : stack.Chained setting) : next.Chained setting := by
  cases transition with
  | stay step =>
    exact chained.imp_head fun waits => waits.advance rfl rfl (context_of_step step)
  | enter step asks enters =>
    have waiting : (stack.continued _ :: stack.parents).IsChain fun child waiting =>
        waiting.WaitsFor setting child :=
      chained.imp_head fun waits => waits.advance rfl rfl (context_of_step step)
    exact .cons_cons (.asked step asks enters ⟨rfl, rfl, rfl⟩) waiting
  | resume step asks enters resumes =>
    have same := Activation.resumedWith_of_resume? resumes
    exact chained.imp_head fun waits =>
      waits.advance same.kind same.checkpoint (same.context.trans (context_of_step step))
  | leave step settles waiting resumes =>
    have same := Activation.resumedWith_of_resume? resumes
    rw [Chained, waiting] at chained
    exact chained.tail.imp_head fun waits => waits.advance same.kind same.checkpoint same.context

theorem Underway.chained (underway : Underway setting attempt journal stack openings) :
    stack.Chained setting := by
  induction underway with
  | start enters => exact .singleton _
  | @step stack next openings underway steps ih =>
    exact (transition_of_step openings steps).chained ih

theorem reverse_range_succ (count : Nat) :
    (List.range (count + 1)).reverse = count :: (List.range count).reverse := by
  rw [List.range_succ, List.reverse_append]
  rfl

theorem depths_of_isChain {frames : List Activation}
    (deeper : frames.IsChain fun child waiting => child.depth = waiting.depth + 1)
    (first : ∀ outermost ∈ frames.getLast?, outermost.depth = 0) :
    frames.map Activation.depth = (List.range frames.length).reverse := by
  induction frames with
  | nil => rfl
  | cons child rest ih =>
    cases rest with
    | nil =>
      have top : child.depth = 0 := first child rfl
      rw [List.map_singleton, top]
      rfl
    | cons waiting below =>
      obtain ⟨step, deeper⟩ := List.isChain_cons_cons.mp deeper
      have counted := ih deeper fun outermost last => first outermost last
      have above : waiting.depth = below.length := by
        rw [List.length_cons, reverse_range_succ, List.map_cons] at counted
        exact (List.cons.inj counted).1
      rw [List.map_cons, counted, step, above]
      exact (reverse_range_succ (below.length + 1)).symm

theorem Underway.outermost_context (underway : Underway setting attempt journal stack openings) :
    ∀ outermost ∈ (stack.current :: stack.parents).getLast?,
      outermost.frame.context = attempt.context journal := by
  intro outermost last
  have contexts := congrArg List.getLast? underway.contexts
  rw [FrameStack.contexts, List.getLast?_map, List.getLast?_map, underway.getLast?_eq, last]
    at contexts
  exact Option.some.inj contexts

theorem Underway.depths (underway : Underway setting attempt journal stack openings)
    (top : (attempt.context journal).depth = 0) :
    (stack.current :: stack.parents).map Activation.depth =
      (List.range (stack.parents.length + 1)).reverse := by
  apply depths_of_isChain
  · exact underway.chained.imp fun _ _ waits => waits.depth.1
  · intro outermost last
    rw [Activation.depth, underway.outermost_context outermost last, top]

theorem Underway.length_parents_le (underway : Underway setting attempt journal stack openings)
    (top : (attempt.context journal).depth = 0) :
    stack.parents.length ≤ setting.rules.amount .callDepthLimit := by
  have counted := underway.depths top
  have chained := underway.chained
  rw [reverse_range_succ, List.map_cons] at counted
  have deep : stack.current.depth = stack.parents.length := (List.cons.inj counted).1
  rw [Chained] at chained
  cases waits : stack.parents with
  | nil => exact Nat.zero_le _
  | cons waiting below =>
    rw [waits] at chained
    rw [← waits, ← deep]
    exact (List.isChain_cons_cons.mp chained).1.depth.2

end FrameStack

theorem depth_ofTransaction (tx : Transaction) (sender : Address) (gas : Nat) (journal : Journal) :
    ((Attempt.ofTransaction tx sender gas).context journal).depth = 0 := by
  rw [Attempt.ofTransaction]
  split <;> rfl

/-- Wherever a transaction comes to, its frames lie at the depths from zero on, at most 1024 of them
above the first. Their checkpoints follow each other, from where the transaction was prepared to
where the journal is now. Every frame but the last has asked for the next one, and has a place on
its stack and a range in its memory for what that one will hand back. -/
theorem frames_wait_in_order (fork : Fork) (environment : Environment) (tx : Transaction)
    (accepted : Accepted) (gas : Nat) (charged : Journal) :
    let setting := accepted.setting (Mainnet.rules fork) environment
    let attempt := Attempt.ofTransaction tx accepted.sender gas
    let prepared := prepare (Mainnet.rules fork) environment tx accepted charged
    ∀ stack openings, FrameStack.Underway setting attempt prepared stack openings →
      stack.frames.map Activation.depth = List.range stack.frames.length ∧
      stack.parents.length ≤ 1024 ∧
      (stack.frames.map Activation.checkpoint).Pairwise (· ≤ ·) ∧
      (∀ frame ∈ stack.frames, prepared.checkpoint ≤ frame.checkpoint ∧
        frame.checkpoint ≤ stack.journal.checkpoint) ∧
      stack.frames.IsChain fun waiting child =>
        waiting.WaitsFor setting child ∧ waiting.frame.stack.size < 1024 ∧
        ∀ offset size, child.kind = .call offset size →
          size = 0 ∨ offset + size ≤ waiting.frame.memory.size := by
  intro setting attempt prepared stack openings underway
  have nested := underway.nested
  have depths := underway.depths (depth_ofTransaction tx accepted.sender gas prepared)
  have few := underway.length_parents_le (depth_ofTransaction tx accepted.sender gas prepared)
  refine ⟨?_, ?_, ?_, ?_, ?_⟩
  · rw [FrameStack.frames, List.map_reverse, depths, List.reverse_reverse, List.length_reverse,
      List.length_cons]
  · simpa only [setting, Accepted.setting, Mainnet.amount_callDepthLimit] using few
  · rw [FrameStack.frames, List.map_reverse, List.pairwise_reverse, List.pairwise_map]
    exact nested.pairwise_checkpoint
  · intro frame member
    have among := List.mem_reverse.mp member
    exact ⟨nested.le_checkpoint underway.getLast?_eq frame among, nested.checkpoint_le frame among⟩
  · rw [FrameStack.frames, List.isChain_reverse]
    refine underway.chained.imp fun child waiting waits => ⟨waits, waits.awaits.place, ?_⟩
    intro offset size kind
    have room := waits.awaits.room
    rw [kind] at room
    simpa [Activation.HasRoom, Memory.covers] using room

/-- A contract that calls itself, for a word of output. -/
def recursiveWorld : World :=
  .ofList
    [(⟨0x2000#160⟩,
      { code := [0x60, 0x20, 0x60, 0x00, 0x60, 0x00, 0x60, 0x00, 0x60, 0x00, 0x30, 0x5a, 0xf1] })]

theorem frames_wait_in_order_recursive :
    let setting := Accepted.setting ⟨⟨0x10#160⟩, 21000, 10#256⟩ (Mainnet.rules .london) {}
    let attempt := Attempt.ofTransaction FrameStack.callOfReader ⟨0x10#160⟩ 100000
    let prepared := prepare (Mainnet.rules .london) {} FrameStack.callOfReader
      ⟨⟨0x10#160⟩, 21000, 10#256⟩ (.start recursiveWorld)
    ∃ stack openings, FrameStack.Underway setting attempt prepared stack openings ∧
      stack.frames.map Activation.depth = [0, 1, 2] ∧
      stack.frames.map Activation.kind = [.call 0 0, .call 0 32, .call 0 32] ∧
      stack.frames.IsChain fun waiting child =>
        waiting.WaitsFor setting child ∧ waiting.frame.stack.size < 1024 ∧
        ∀ offset size, child.kind = .call offset size →
          size = 0 ∨ offset + size ≤ waiting.frame.memory.size := by
  intro setting attempt prepared
  have seen : (FrameStack.reach setting attempt prepared 16).map (fun reached =>
      reached.1.frames.map Activation.kind) = some [.call 0 0, .call 0 32, .call 0 32] := by
    simp only [setting, prepared, Mainnet.rules_eq_readOff]
    decide +kernel
  obtain ⟨⟨stack, openings⟩, reaches, kinds⟩ := Option.map_eq_some_iff.mp seen
  have underway := FrameStack.underway_of_reach reaches
  have three : stack.frames.length = 3 := by simpa using congrArg List.length kinds
  obtain ⟨depths, -, -, -, waits⟩ := frames_wait_in_order .london {} FrameStack.callOfReader
    ⟨⟨0x10#160⟩, 21000, 10#256⟩ 100000 (.start recursiveWorld) stack openings underway
  rw [three] at depths
  exact ⟨stack, openings, underway, depths, kinds, waits⟩

end StateTransition.Evm
