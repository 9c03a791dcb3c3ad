import StateTransition.Proofs.FrameStack.Nonces
import StateTransition.Proofs.Journal.Cleanup

namespace StateTransition.Evm

variable {setting : Setting} {journal entered : Journal}

theorem CallRequest.Opens.tidies {rules : Rules} {request : CallRequest}
    (opens : request.Opens rules journal entered) : journal.Tidies entered := by
  rw [opens.result, payCallee]
  have made : journal.TidiesBut (· = request.address) (journal.ensure request.address) :=
    Journal.tidiesBut_ensure journal rfl
  split
  · have moved := Journal.tidies_move (journal.ensure request.address) request.caller
      request.address request.value
    apply (made.trans (moved.mono fun _ never => never.elim)).tidies
    rintro other rfl
    exact Journal.contains_touch _ _
  · apply (made.trans (Journal.tidiesBut_touch _ _)).tidies
    rintro other rfl
    exact Journal.contains_touch _ _

namespace CreateRequest.Opens

variable {rules : Rules} {request : CreateRequest} {target : Address}

theorem endures (opens : request.Opens rules journal target entered) : journal.Endures entered := by
  rw [opens.result]
  exact (Journal.endures_createAccount opens.vacant _).trans
    (.of_same (Journal.sameOccupants_move _ _ _ _))

theorem tidies (opens : request.Opens rules journal target entered) (fresh : freshNonce rules ≠ 0) :
    journal.Tidies entered := by
  rw [opens.result]
  exact (Journal.tidies_createAccount journal target fresh).trans (Journal.tidies_move _ _ _ _)

theorem nonce_target (opens : request.Opens rules journal target entered) :
    entered.nonce target = freshNonce rules := by
  rw [opens.result, (Journal.sameOccupants_move _ _ _ _).nonce, Journal.nonce_createAccount,
    if_pos rfl]

end CreateRequest.Opens

namespace Attempt

variable {attempt : Attempt}

theorem endures_base (setting : Setting) (journal : Journal) (attempt : Attempt) :
    journal.Endures (attempt.base setting journal) :=
  rel_base .refl .trans Journal.endures_bumpNonce
    (fun start target => .of_same (Journal.sameOccupants_warmTarget start target _))
    journal attempt

theorem tidies_base (setting : Setting) (journal : Journal) (attempt : Attempt) :
    journal.Tidies (attempt.base setting journal) :=
  rel_base .refl .trans Journal.tidies_bumpNonce
    (fun start target => .of_warms (Journal.warms_warmTarget start target setting.rules))
    journal attempt

namespace Opens

theorem endures (opens : attempt.Opens setting journal entered) : journal.Endures entered := by
  apply (endures_base setting journal attempt).trans
  cases attempt with
  | call request => exact .of_same (CallRequest.Opens.sameOccupants opens)
  | create request => exact opens.2.endures
  | deploy request target => exact CreateRequest.Opens.endures opens

theorem tidies (opens : attempt.Opens setting journal entered)
    (fresh : freshNonce setting.rules ≠ 0) : journal.Tidies entered := by
  apply (tidies_base setting journal attempt).trans
  cases attempt with
  | call request => exact CallRequest.Opens.tidies opens
  | create request => exact opens.2.tidies fresh
  | deploy request target => exact CreateRequest.Opens.tidies opens fresh

theorem nonce_ne_zero (opens : attempt.Opens setting journal entered)
    (fresh : freshNonce setting.rules ≠ 0) {target : Address}
    (creates : attempt.kind setting journal = .create target) : entered.nonce target ≠ 0 := by
  cases attempt with
  | call request => cases creates
  | create request =>
    have accepted : refusesCreate setting.rules journal request = false := opens.1
    rw [kind, accepted] at creates
    cases creates
    have counted := opens.2.nonce_target
    exact fun zero => fresh (counted.symm.trans zero)
  | deploy request other =>
    cases creates
    have counted := CreateRequest.Opens.nonce_target opens
    exact fun zero => fresh (counted.symm.trans zero)

end Opens

theorem isOccupied_of_run {child : Activation}
    (enters : attempt.enter setting journal = (.run child, entered))
    (fresh : freshNonce setting.rules ≠ 0)
    (calls : ∀ {request}, attempt = .call request → request.address = request.codeAddress ∨
      isOccupied journal request.address = true) :
    isOccupied entered (attempt.context journal).address = true := by
  have opens := opens_of_run enters
  cases attempt with
  | call request =>
    rcases calls rfl with same | taken
    · have code := code_of_startCall enters
      rw [← same] at code
      exact Journal.isOccupied_iff.mpr (.inr code)
    · exact opens.endures.occupied _ taken
  | create request =>
    have accepted : refusesCreate setting.rules journal request = false := opens.1
    apply Journal.isOccupied_of_nonce
    apply opens.nonce_ne_zero fresh
    rw [kind, accepted]
    rfl
  | deploy request target =>
    apply Journal.isOccupied_of_nonce
    exact opens.nonce_ne_zero fresh rfl

end Attempt

namespace FrameStack

/-- What a frame relies on: its account is occupied, what it creates has used a nonce, and whatever
was occupied when it was entered still is. -/
structure Tidy (setting : Setting) (start : Journal) (opened : Opened) (here : Journal) :
    Prop where
  tidies : start.Tidies here
  acts : isOccupied here opened.context.address = true
  creates : ∀ {target}, opened.kind setting = .create target → here.nonce target ≠ 0
  endures : opened.journal.Endures here

variable {attempt : Attempt} {opened : Opened} {here there : Journal}

theorem Tidy.advance (tidy : Tidy setting journal opened here) (tidies : here.Tidies there)
    (endures : here.Endures there) : Tidy setting journal opened there where
  tidies := tidy.tidies.trans tidies
  acts := endures.occupied _ tidy.acts
  creates created := endures.nonce _ (tidy.creates created)
  endures := tidy.endures.trans endures

theorem frameInvariant_tidy (fresh : freshNonce setting.rules ≠ 0)
    (calls : ∀ {request}, attempt = .call request → request.address = request.codeAddress) :
    FrameInvariant setting attempt journal (Tidy setting journal) where
  start := by
    intro child entered enters
    have opens := Attempt.opens_of_run enters
    exact ⟨opens.tidies fresh, Attempt.isOccupied_of_run enters fresh fun made => .inl (calls made),
      opens.nonce_ne_zero fresh, opens.endures⟩
  step := by
    intro stack opened outer action after underway step tidy
    have effects := Machine.effects_of_step step
    have acts := tidy.acts
    rw [← underway.context] at acts
    exact tidy.advance (effects.tidies acts) (.of_same effects.sameOccupants)
  base := by
    intro opened asked here tidy asks _
    exact tidy.advance (asked.tidies_base setting here) (asked.endures_base setting here)
  opens := by
    intro opened asked here entered tidy asks _ opens
    exact tidy.advance (opens.tidies fresh) opens.endures
  runs := by
    intro opened asked here entered child caller tidy asks _ enters
    have opens := Attempt.opens_of_run enters
    refine ⟨tidy.tidies.trans (opens.tidies fresh), ?_, opens.nonce_ne_zero fresh, opens.endures⟩
    apply Attempt.isOccupied_of_run enters fresh
    intro request call
    subst call
    have asks : request.AskedBy setting.rules opened.context := asks
    rcases asks.address_eq with own | inherited
    · exact .inl own
    · rw [inherited]
      exact .inr tidy.acts
  deploys := by
    intro opened here target code tidy created
    have used := tidy.creates created
    exact tidy.advance (Journal.tidies_setCode here code used) (Journal.endures_setCode code used)
  keeps := by
    intro opened child left tidy asks handed
    exact ⟨handed.tidies, handed.endures.occupied _ tidy.acts,
      fun created => handed.endures.nonce _ (tidy.creates created),
      tidy.endures.trans handed.endures⟩

theorem Ends.tidies {left : Journal} {remaining : Nat} {result : FrameResult} {progress : Progress}
    (ends : Ends setting attempt journal ⟨attempt, journal, none⟩ remaining result left progress)
    (fresh : freshNonce setting.rules ≠ 0)
    (calls : ∀ {request}, attempt = .call request → request.address = request.codeAddress) :
    journal.Tidies left ∧ journal.Endures left := by
  rcases ends.left_cases (frameInvariant_tidy fresh calls) with based | tidy | ⟨opens, _⟩
  · rw [based]
    exact ⟨attempt.tidies_base setting journal, attempt.endures_base setting journal⟩
  · exact ⟨tidy.tidies, tidy.endures⟩
  · exact ⟨opens.tidies fresh, opens.endures⟩

end FrameStack

end StateTransition.Evm
