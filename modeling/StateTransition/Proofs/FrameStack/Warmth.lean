import StateTransition.Proofs.FrameStack.Invariant
import StateTransition.Proofs.Journal.Warmth

namespace StateTransition.Evm

variable {setting : Setting} {journal entered : Journal}

theorem CallRequest.Opens.staysWarm {rules : Rules} {request : CallRequest}
    (opens : request.Opens rules journal entered) : journal.StaysWarm entered := by
  rw [opens.result, payCallee]
  apply (Journal.StaysWarm.of_sameRecords (Journal.sameRecords_ensure journal _)).trans
  split
  · exact Journal.staysWarm_move _ _ _ _
  · exact Journal.staysWarm_touch _ _

theorem CreateRequest.Opens.staysWarm {rules : Rules} {request : CreateRequest} {target : Address}
    (opens : request.Opens rules journal target entered) : journal.StaysWarm entered := by
  rw [opens.result]
  exact (Journal.staysWarm_createAccount journal target _).trans (Journal.staysWarm_move _ _ _ _)

namespace Attempt

theorem staysWarm_base (setting : Setting) (journal : Journal) (attempt : Attempt) :
    journal.StaysWarm (attempt.base setting journal) :=
  rel_base .refl .trans
    (fun start caller => .of_sameRecords (Journal.sameRecords_bumpNonce start caller))
    (fun start target => .of_warms (Journal.warms_warmTarget start target setting.rules))
    journal attempt

theorem Opens.staysWarm {attempt : Attempt} (opens : attempt.Opens setting journal entered) :
    (attempt.base setting journal).StaysWarm entered := by
  cases attempt with
  | call request => exact CallRequest.Opens.staysWarm opens
  | create request => exact opens.2.staysWarm
  | deploy request target => exact CreateRequest.Opens.staysWarm opens

end Attempt

theorem runInvariant_staysWarm (setting : Setting) (start : Journal) :
    RunInvariant setting start.StaysWarm where
  step step _ warm := (Machine.effects_of_step step).holds
    (fun effect warm => warm.trans effect.staysWarm) warm
  base attempt _ warm := warm.trans (attempt.staysWarm_base setting _)
  opens opens warm := warm.trans opens.staysWarm
  setCode address code _ warm :=
    warm.trans (.of_sameRecords (Journal.sameRecords_setCode _ address code))

namespace FrameStack

variable {attempt : Attempt} {stack : FrameStack} {openings : List Opened}

theorem Underway.staysWarm (underway : Underway setting attempt journal stack openings) :
    journal.StaysWarm stack.journal :=
  (underway.holdsAlong (runInvariant_staysWarm setting journal) (.refl journal)).1

theorem Ends.staysWarm {opened : Opened} {remaining : Nat} {result : FrameResult} {left : Journal}
    {progress : Progress}
    (ends : Ends setting attempt journal opened remaining result left progress) :
    journal.StaysWarm left :=
  ends.holds_left (runInvariant_staysWarm setting journal) (.refl journal)

end FrameStack

end StateTransition.Evm
