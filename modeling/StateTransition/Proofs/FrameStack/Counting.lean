import StateTransition.Proofs.FrameStack.Invariant
import StateTransition.Proofs.FrameStack.Nonces
import StateTransition.Proofs.Journal.Counting

namespace StateTransition.Evm

variable {setting : Setting} {journal entered : Journal}

theorem room_of_accepted {rules : Rules} {request : CreateRequest}
    (accepted : refusesCreate rules journal request = false) :
    (journal.nonce request.caller).toNat + 1 < UInt64.size := by
  simp only [refusesCreate, Bool.or_eq_false_iff, beq_eq_false_iff_ne] at accepted
  exact Nat.lt_of_le_of_ne (journal.nonce request.caller).toNat_lt accepted.2

theorem CallRequest.Opens.keepsSteps {rules : Rules} {request : CallRequest}
    (opens : request.Opens rules journal entered) : journal.KeepsSteps entered := by
  rw [opens.result, payCallee]
  apply (Journal.keepsSteps_ensure journal request.address).trans
  split
  · exact Journal.keepsSteps_move _ _ _ _
  · exact Journal.keepsSteps_touch _ _

theorem CreateRequest.Opens.keepsSteps {rules : Rules} {request : CreateRequest} {target : Address}
    (opens : request.Opens rules journal target entered) : journal.KeepsSteps entered := by
  rw [opens.result]
  exact (Journal.keepsSteps_createAccount journal target _).trans (Journal.keepsSteps_move _ _ _ _)

namespace Attempt

theorem keepsSteps_base (setting : Setting) (journal : Journal) (attempt : Attempt) :
    journal.KeepsSteps (attempt.base setting journal) := by
  cases attempt with
  | call request => exact .refl journal
  | deploy request address => exact Journal.keepsSteps_warmTarget setting.rules journal address
  | create request =>
    rw [base]
    split
    · exact .refl journal
    · rename_i accepted
      have room := room_of_accepted (Bool.eq_false_iff.mpr accepted)
      exact (Journal.keepsSteps_bumpNonce journal request.caller room).trans
        (Journal.keepsSteps_warmTarget setting.rules _ _)

theorem Opens.keepsSteps {attempt : Attempt} (opens : attempt.Opens setting journal entered) :
    (attempt.base setting journal).KeepsSteps entered := by
  cases attempt with
  | call request => exact CallRequest.Opens.keepsSteps opens
  | create request => exact opens.2.keepsSteps
  | deploy request target => exact CreateRequest.Opens.keepsSteps opens

end Attempt

theorem runInvariant_stepsUp (setting : Setting) : RunInvariant setting Journal.StepsUp where
  step step _ steps := (Machine.effects_of_step step).holds Effect.keepsSteps steps
  base attempt _ := attempt.keepsSteps_base setting _
  opens opens := opens.keepsSteps
  setCode address code _ := Journal.keepsSteps_setCode _ address code

theorem nonce_base_create {request : CreateRequest}
    (accepted : refusesCreate setting.rules journal request = false) :
    ((Attempt.create request).base setting journal).nonce request.caller =
      Journal.nextNonce (journal.nonce request.caller) := by
  rw [Attempt.base, if_neg (Bool.eq_false_iff.mp accepted),
    (Journal.sameOccupants_warmTarget _ _ _).nonce, Journal.nonce_bumpNonce, if_pos rfl]

theorem nonce_of_opens_create {request : CreateRequest}
    (opens : (Attempt.create request).Opens setting journal entered) :
    entered.nonce request.caller = Journal.nextNonce (journal.nonce request.caller) := by
  obtain ⟨accepted, created⟩ := opens
  have based := nonce_base_create accepted
  -- the creator has used a nonce, so it is not at its own address that the account is created
  have different : createTarget journal request ≠ request.caller := by
    intro same
    have taken := Journal.isOccupied_of_nonce (based ▸ Journal.nextNonce_ne_zero _)
    have vacant := created.vacant
    rw [same, taken] at vacant
    cases vacant
  rw [created.nonce_of_ne different, based]

theorem startCreate_counts (setting : Setting) (journal : Journal) (request : CreateRequest) :
    if refusesCreate setting.rules journal request then
      (startCreate setting journal request).2 = journal
    else
      ((startCreate setting journal request).2.nonce request.caller).toNat =
        (journal.nonce request.caller).toNat + 1 := by
  split
  · rename_i refused
    rw [startCreate, if_pos refused]
  · rename_i accepted
    have accepted := Bool.eq_false_iff.mpr accepted
    have step := (Journal.toNat_nextNonce_iff _).mpr (room_of_accepted accepted)
    have based := nonce_base_create accepted
    have begins := (Attempt.create request).begins_enter setting journal
    have counted : (startCreate setting journal request).2.nonce request.caller =
        Journal.nextNonce (journal.nonce request.caller) := by
      rw [Attempt.enter] at begins
      generalize startCreate setting journal request = started at begins
      cases begins with
      | fails failed returns => exact based
      | idles => exact based
      | completes opens succeeded left => exact nonce_of_opens_create opens
      | runs opens code => exact nonce_of_opens_create opens
    rw [counted, step]

end StateTransition.Evm
