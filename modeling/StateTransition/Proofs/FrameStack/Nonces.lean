import StateTransition.Proofs.FrameStack.Identity
import StateTransition.Proofs.Journal.Occupants

namespace StateTransition.Evm

variable {setting : Setting} {journal entered : Journal} {address : Address} {account : Account}

theorem CallRequest.Opens.sameOccupants {rules : Rules} {request : CallRequest}
    (opens : request.Opens rules journal entered) : journal.SameOccupants entered := by
  rw [opens.result, payCallee]
  apply (Journal.sameOccupants_ensure journal request.address).trans
  split
  · exact Journal.sameOccupants_move _ _ _ _
  · exact Journal.sameOccupants_touch _ _

theorem CreateRequest.Opens.nonce_of_ne {rules : Rules} {request : CreateRequest} {target : Address}
    (opens : request.Opens rules journal target entered) (different : target ≠ address) :
    entered.nonce address = journal.nonce address := by
  rw [opens.result, (Journal.sameOccupants_move _ _ _ _).nonce, Journal.nonce_createAccount,
    if_neg different]

namespace Attempt

variable {attempt : Attempt}

/-- Only a creation that a frame asks for counts a nonce up: that of its creator. -/
def SparesNonce (address : Address) : Attempt → Prop
  | .create request => request.caller ≠ address
  | .call _ | .deploy .. => True

theorem nonce_base (setting : Setting) (journal : Journal) (spares : attempt.SparesNonce address) :
    (attempt.base setting journal).nonce address = journal.nonce address := by
  cases attempt with
  | call request => rfl
  | create request =>
    have different : request.caller ≠ address := spares
    rw [base]
    split
    · rfl
    · rw [(Journal.sameOccupants_warmTarget _ _ _).nonce, Journal.nonce_bumpNonce,
        if_neg different]
  | deploy request target => exact (Journal.sameOccupants_warmTarget journal target _).nonce address

theorem Opens.nonce_eq (opens : attempt.Opens setting journal entered)
    (retains : journal.Retains address account) (established : account.Established)
    (spares : attempt.SparesNonce address) : entered.nonce address = journal.nonce address := by
  have based := (upholds_base setting journal attempt).retains retains
  rw [← nonce_base setting journal spares]
  cases attempt with
  | call request => exact (CallRequest.Opens.sameOccupants opens).nonce address
  | create request => exact opens.2.nonce_of_ne (opens.2.ne based established)
  | deploy request target =>
    exact CreateRequest.Opens.nonce_of_ne opens (CreateRequest.Opens.ne opens based established)

end Attempt

namespace FrameStack

/-- What a frame relies on while an account without code keeps its nonce. -/
structure Counted (setting : Setting) (attempt : Attempt) (journal : Journal) (address : Address)
    (account : Account) (opened : Opened) (here : Journal) : Prop where
  guarded : Guarded setting attempt journal address account opened here
  nonce : here.nonce address = journal.nonce address

variable {attempt asked : Attempt} {opened : Opened} {here : Journal}

theorem Guarded.sparesNonce (guarded : Guarded setting attempt journal address account opened here)
    (codeless : account.code = []) (asks : asked.AskedBy setting.rules opened.context) :
    asked.SparesNonce address := by
  cases asked with
  | call request => trivial
  | deploy request target => trivial
  | create request =>
    intro same
    have asks : request.AskedBy opened.context := asks
    exact guarded.coded (asks.caller.symm.trans same) codeless

theorem frameInvariant_counted
    (upheld : Upheld setting attempt journal address account journal)
    (established : account.Established) (codeless : account.code = [])
    (spares : attempt.SparesNonce address)
    (calls : ∀ {request}, attempt = .call request → request.address = request.codeAddress) :
    FrameInvariant setting attempt journal (Counted setting attempt journal address account) where
  start := by
    intro child entered enters
    have opens := Attempt.opens_of_run enters
    exact ⟨(frameInvariant_guarded upheld established calls).start enters,
      opens.nonce_eq upheld.retains established spares⟩
  step := by
    intro stack opened outer action after underway step counted
    have same := (Machine.effects_of_step step).sameOccupants.nonce address
    exact ⟨(frameInvariant_guarded upheld established calls).step underway step counted.guarded,
      same.trans counted.nonce⟩
  base := by
    intro opened asked here counted asks aimed
    have same := Attempt.nonce_base setting here (counted.guarded.sparesNonce codeless asks)
    exact ⟨(frameInvariant_guarded upheld established calls).base counted.guarded asks aimed,
      same.trans counted.nonce⟩
  opens := by
    intro opened asked here entered counted asks aimed opens
    have same := opens.nonce_eq counted.guarded.upheld.retains established
      (counted.guarded.sparesNonce codeless asks)
    exact ⟨(frameInvariant_guarded upheld established calls).opens counted.guarded asks aimed opens,
      same.trans counted.nonce⟩
  runs := by
    intro opened asked here entered child caller counted asks aimed enters
    have same := (Attempt.opens_of_run enters).nonce_eq counted.guarded.upheld.retains established
      (counted.guarded.sparesNonce codeless asks)
    exact ⟨(frameInvariant_guarded upheld established calls).runs caller counted.guarded asks aimed
      enters,
      same.trans counted.nonce⟩
  deploys := by
    intro opened here target code counted created
    have same := Journal.nonce_setCode here target address code
    exact ⟨(frameInvariant_guarded upheld established calls).deploys code counted.guarded created,
      same.trans counted.nonce⟩
  keeps := by
    intro opened child left counted asks handed
    exact ⟨(frameInvariant_guarded upheld established calls).keeps counted.guarded asks handed.guarded,
      handed.nonce⟩

theorem Ends.nonce_eq {left : Journal} {remaining : Nat} {result : FrameResult}
    {progress : Progress}
    (ends : Ends setting attempt journal ⟨attempt, journal, none⟩ remaining result left progress)
    (retains : journal.Retains address account) (established : account.Established)
    (unscheduled : journal.isDestructed address = false) (codeless : account.code = [])
    (spares : attempt.SparesNonce address)
    (calls : ∀ {request}, attempt = .call request → request.address = request.codeAddress) :
    left.nonce address = journal.nonce address := by
  have start : Upheld setting attempt journal address account journal :=
    .of_retains retains unscheduled
  have invariant := frameInvariant_counted start established codeless spares calls
  rcases ends.left_cases invariant with based | counted | ⟨opens, _⟩
  · rw [based]
    exact Attempt.nonce_base setting journal spares
  · exact counted.nonce
  · exact opens.nonce_eq retains established spares

end FrameStack

end StateTransition.Evm
