import StateTransition.Proofs.FrameStack.Endings

namespace StateTransition.Evm

def gasHeld : List Activation → Nat
  | [] => 0
  | activation :: others => activation.frame.gas + gasHeld others

/-- The gas that all frames hold together. -/
def FrameStack.gas (stack : FrameStack) : Nat := stack.current.frame.gas + gasHeld stack.parents

/-- A frame that holds some gas, and the frames that wait below it, are within what the attempts
behind them were given; a frame that waits counts what it handed on as held. -/
def Solvent : (held : Nat) → List Activation → List Opened → Prop
  | held, [], [opened] => held ≤ opened.attempt.gas
  | held, caller :: callers, opened :: openings =>
    held ≤ opened.attempt.gas ∧ Solvent (caller.frame.gas + opened.attempt.gas) callers openings
  | _, _, _ => False

namespace Solvent

variable {held less : Nat} {parents : List Activation} {opened first : Opened}
  {openings : List Opened}

theorem held_le (solvent : Solvent held parents (opened :: openings)) :
    held ≤ opened.attempt.gas := by
  cases parents with
  | nil =>
    cases openings with
    | nil => exact solvent
    | cons => exact solvent.elim
  | cons caller callers => exact solvent.1

theorem mono (solvent : Solvent held parents openings) (fewer : less ≤ held) :
    Solvent less parents openings := by
  cases openings with
  | nil => cases parents <;> exact solvent.elim
  | cons opened rest =>
    cases parents with
    | cons caller callers => exact ⟨Nat.le_trans fewer solvent.1, solvent.2⟩
    | nil =>
      cases rest with
      | nil => exact Nat.le_trans fewer solvent
      | cons => exact solvent.elim

theorem sum_le (solvent : Solvent held parents openings) (last : openings.getLast? = some first) :
    held + gasHeld parents ≤ first.attempt.gas := by
  induction parents generalizing held openings with
  | nil =>
    cases openings with
    | nil => exact solvent.elim
    | cons opened rest =>
      cases rest with
      | cons => exact solvent.elim
      | nil =>
        cases last
        exact solvent
  | cons caller callers ih =>
    cases openings with
    | nil => exact solvent.elim
    | cons opened rest =>
      cases rest with
      | nil => cases callers <;> exact solvent.2.elim
      | cons second others =>
        have below := ih solvent.2 (by simpa using last)
        have held := solvent.1
        rw [gasHeld]
        omega

end Solvent

namespace FrameStack

variable {setting : Setting} {attempt : Attempt} {journal : Journal} {stack next : FrameStack}
  {openings later : List Opened}

theorem gas_le_of_step {action : Option Action} {after : Machine}
    (step : stack.machine.step setting = (action, after)) :
    after.frame.gas ≤ stack.current.frame.gas :=
  (Machine.effects_of_step step).gas_le

theorem paid_of_step {action : Action} {after : Machine} {asked : Attempt}
    (covers : setting.rules.CoversStipend)
    (step : stack.machine.step setting = (some action, after))
    (asks : action.attempt? = some asked) :
    after.frame.gas + asked.gas ≤ stack.current.frame.gas := by
  have backed := Machine.backed_of_step step
  cases action with
  | call request =>
    cases asks
    exact Nat.le_trans (Nat.le_add_right _ _) (CallRequest.Issued.paid backed covers)
  | create request =>
    cases asks
    exact CreateRequest.Issued.paid backed
  | finish result | overflow => cases asks

theorem gasLeft_le_of_enter {asked : Attempt} {kind : FrameKind} {result : FrameResult}
    {left : Journal} (enters : asked.enter setting journal = (.done kind result, left)) :
    result.gasLeft ≤ asked.gas := by
  have begins := asked.begins_enter setting journal
  rw [enters] at begins
  cases begins with
  | fails failed returns => exact returns.gasLeft_le
  | idles => exact Nat.le_refl _
  | completes opens succeeded left => exact left

theorem gas_of_enter {asked : Attempt} {child : Activation} {left : Journal}
    (enters : asked.enter setting journal = (.run child, left)) : child.frame.gas = asked.gas := by
  have begins := asked.begins_enter setting journal
  rw [enters] at begins
  cases begins with
  | runs opens code => rfl

theorem gasLeft_le_of_settle {opened : Opened} {raw result : FrameResult} {after : Machine}
    {left : Journal} (serves : opened.ServedBy setting stack.current stack.journal)
    (step : stack.machine.step setting = (some (.finish raw), after))
    (settles : settle setting.rules after.journal stack.current.kind stack.current.checkpoint raw =
      (result, left)) : result.gasLeft ≤ after.frame.gas := by
  have settled := settles_of_step serves step
  rw [settles] at settled
  cases settled with
  | fails failed returns => exact returns.gasLeft_le
  | keeps succeeded left => exact left
  | deploys code created succeeded left => exact left

/-- One step keeps all frames within their attempts' gas. -/
theorem Transition.solvent (transition : Transition setting stack openings next later)
    (covers : setting.rules.CoversStipend)
    (nested : Nested setting stack.current stack.parents stack.journal openings)
    (solvent : Solvent stack.current.frame.gas stack.parents openings) :
    Solvent next.current.frame.gas next.parents later := by
  cases transition with
  | stay step => exact solvent.mono (gas_le_of_step step)
  | enter step asks enters =>
    constructor
    · exact Nat.le_of_eq (gas_of_enter enters)
    · exact solvent.mono (paid_of_step covers step asks)
  | @resume action after asked kind result left resumed step asks enters resumes =>
    have gas : resumed.frame.gas = after.frame.gas + result.gasLeft :=
      (Activation.resumedWith_of_resume? resumes).gas
    have left := gasLeft_le_of_enter enters
    have paid := paid_of_step covers step asks
    apply solvent.mono
    simp only
    omega
  | @leave raw result after left caller resumed callers step settles waiting resumes =>
    obtain ⟨opened, outer, same, serves⟩ := nested.exists_served
    subst same
    have gas := (Activation.resumedWith_of_resume? resumes).gas
    have left := gasLeft_le_of_settle serves step settles
    have spent := gas_le_of_step step
    have held := solvent.held_le
    rw [waiting] at solvent
    apply solvent.2.mono
    simp only
    omega

theorem Underway.solvent (covers : setting.rules.CoversStipend)
    (underway : Underway setting attempt journal stack openings) :
    Solvent stack.current.frame.gas stack.parents openings := by
  induction underway with
  | start enters => exact Nat.le_of_eq (gas_of_enter enters)
  | step underway steps ih => exact (transition_of_step _ steps).solvent covers underway.nested ih

theorem Underway.gas_le (covers : setting.rules.CoversStipend)
    (underway : Underway setting attempt journal stack openings) : stack.gas ≤ attempt.gas :=
  (underway.solvent covers).sum_le underway.getLast?_eq

variable {opened : Opened} {remaining : Nat} {result : FrameResult} {left : Journal}
  {progress : Progress}

theorem Ends.gasLeft_le (covers : setting.rules.CoversStipend)
    (ends : Ends setting attempt journal opened remaining result left progress) :
    result.gasLeft ≤ opened.attempt.gas := by
  cases ends with
  | outright enters => exact gasLeft_le_of_enter enters
  | atOnce underway step asks enters => exact gasLeft_le_of_enter enters
  | @frame stack opened openings raw result after left underway step settles =>
    obtain ⟨first, outer, same, serves⟩ := underway.nested.exists_served
    cases same
    calc result.gasLeft
      _ ≤ after.frame.gas := gasLeft_le_of_settle serves step settles
      _ ≤ stack.current.frame.gas := gas_le_of_step step
      _ ≤ opened.attempt.gas := (underway.solvent covers).held_le

theorem Ends.caller_gas_le {caller : Activation} (covers : setting.rules.CoversStipend)
    (ends : Ends setting attempt journal opened remaining result left progress)
    (waits : opened.caller = some caller) :
    caller.frame.gas + opened.attempt.gas ≤ attempt.gas := by
  cases ends with
  | outright enters => cases waits
  | @atOnce stack openings action after asked kind result left underway step asks enters =>
    cases waits
    calc after.frame.gas + asked.gas
      _ ≤ stack.current.frame.gas := paid_of_step covers step asks
      _ ≤ stack.gas := Nat.le_add_right _ _
      _ ≤ attempt.gas := underway.gas_le covers
  | @frame stack opened openings raw result after left underway step settles =>
    have nested := underway.nested
    have solvent := underway.solvent covers
    have last := underway.getLast?_eq
    generalize stack.parents = parents at nested solvent
    cases nested with
    | outermost serves alone =>
      rw [alone] at waits
      cases waits
    | @inner _ _ callerBelow _ callers _ serves waitsFor room outer =>
      rw [waitsFor] at waits
      cases waits
      obtain ⟨second, rest, same, served⟩ := outer.exists_served
      subst same
      have outermost : (second :: rest).getLast? = some ⟨attempt, journal, none⟩ := by
        simpa using last
      exact Nat.le_trans (Nat.le_add_right _ _) (solvent.2.sum_le outermost)

end FrameStack

end StateTransition.Evm
