import StateTransition.Proofs.FrameStack.Serving
import StateTransition.Proofs.FrameStack.Warmth
import StateTransition.Proofs.Instruction.Footprint

namespace StateTransition.Evm

variable {setting : Setting} {journal entered : Journal}

theorem isWarm_warmTarget {rules : Rules} (priced : rules.PricesAccesses) (journal : Journal)
    (address : Address) : (warmTarget rules journal address).isWarm address = true := by
  rw [warmTarget, if_pos priced.accounts]
  exact Journal.isWarm_warmAccount journal address

theorem CallRequest.Opens.changesWarm {rules : Rules} {request : CallRequest}
    (opens : request.Opens rules journal entered) (called : journal.isWarm request.address = true)
    (pays : request.transfers = true → journal.isWarm request.caller = true) :
    journal.ChangesWarm entered := by
  have made := Journal.changesWarm_ensure journal called
  have reached := made.stays.accounts _ called
  rw [opens.result, payCallee]
  apply made.trans
  split
  · rename_i transfers
    exact Journal.changesWarm_move _ (made.stays.accounts _ (pays transfers)) _ reached
  · exact Journal.changesWarm_touch _ reached

theorem CreateRequest.Opens.changesWarm {rules : Rules} {request : CreateRequest} {target : Address}
    (opens : request.Opens rules journal target entered) (created : journal.isWarm target = true)
    (pays : journal.isWarm request.caller = true) : journal.ChangesWarm entered := by
  have made := Journal.changesWarm_createAccount journal created (freshNonce rules)
  rw [opens.result]
  apply made.trans
  exact Journal.changesWarm_move _ (made.stays.accounts _ pays) _ (made.stays.accounts _ created)

theorem CallRequest.AskedBy.caller_eq {rules : Rules} {context : CallContext}
    {request : CallRequest} (asked : request.AskedBy rules context)
    (transfers : request.transfers = true) : request.caller = context.address := by
  obtain ⟨value, parties⟩ := asked.parties
  rw [asked.transfers] at transfers
  cases scheme : request.scheme with
  | call | callCode | staticCall =>
    rw [scheme] at parties
    simp only [Exec.callParties, Prod.mk.injEq] at parties
    exact parties.1
  | delegateCall =>
    rw [scheme] at transfers
    cases transfers

namespace Attempt

variable {attempt : Attempt}

def Accessed (journal : Journal) : Attempt → Prop
  | .call request => journal.isWarm request.address = true ∧
    (request.transfers = true → journal.isWarm request.caller = true)
  | .create request => journal.isWarm request.caller = true
  | .deploy request _ => journal.isWarm request.caller = true

theorem accessed_of_asked {context : CallContext} (priced : setting.rules.PricesAccesses)
    (acts : journal.isWarm context.address = true)
    (asked : attempt.AskedBy setting.rules context)
    (aimed : attempt.Aimed setting.rules journal) : attempt.Accessed journal := by
  cases attempt with
  | call request =>
    have asked : request.AskedBy setting.rules context := asked
    have aimed : journal.isWarm request.codeAddress = true := aimed priced.accounts
    constructor
    · rcases asked.address_eq with own | inherited
      · rwa [own]
      · rwa [inherited]
    · intro transfers
      rwa [asked.caller_eq transfers]
  | create request =>
    have asked : request.AskedBy context := asked
    rw [Accessed, asked.caller]
    exact acts
  | deploy request target => cases asked

theorem Accessed.changesWarm_base (accessed : attempt.Accessed journal) (setting : Setting) :
    journal.ChangesWarm (attempt.base setting journal) := by
  cases attempt with
  | call request => exact .refl journal
  | create request =>
    rw [base]
    split
    · exact .refl journal
    · exact (Journal.changesWarm_bumpNonce journal accessed).trans
        (.of_warms (Journal.warms_warmTarget _ _ setting.rules))
  | deploy request target => exact .of_warms (Journal.warms_warmTarget journal target setting.rules)

namespace Opens

theorem changesWarm (opens : attempt.Opens setting journal entered)
    (priced : setting.rules.PricesAccesses) (accessed : attempt.Accessed journal) :
    journal.ChangesWarm entered := by
  have based := accessed.changesWarm_base setting
  apply based.trans
  cases attempt with
  | call request => exact CallRequest.Opens.changesWarm opens accessed.1 accessed.2
  | create request =>
    have accepted : refusesCreate setting.rules journal request = false := opens.1
    apply opens.2.changesWarm _ (based.stays.accounts _ accessed)
    rw [base, accepted]
    exact isWarm_warmTarget priced _ _
  | deploy request target =>
    apply CreateRequest.Opens.changesWarm opens _ (based.stays.accounts _ accessed)
    exact isWarm_warmTarget priced journal target

theorem isWarm_context (opens : attempt.Opens setting journal entered)
    (priced : setting.rules.PricesAccesses) (accessed : attempt.Accessed journal) :
    entered.isWarm (attempt.context journal).address = true := by
  have stays := (Opens.staysWarm opens)
  cases attempt with
  | call request => exact stays.accounts request.address accessed.1
  | create request =>
    have accepted : refusesCreate setting.rules journal request = false := opens.1
    rw [base, accepted] at stays
    exact stays.accounts _ (isWarm_warmTarget priced _ _)
  | deploy request target => exact stays.accounts _ (isWarm_warmTarget priced journal target)

theorem context_eq (opens : attempt.Opens setting journal entered) {target : Address}
    (creates : attempt.kind setting journal = .create target) :
    (attempt.context journal).address = target := by
  cases attempt with
  | call request => cases creates
  | create request =>
    have accepted : refusesCreate setting.rules journal request = false := opens.1
    rw [kind, accepted] at creates
    cases creates
    rfl
  | deploy request other =>
    cases creates
    rfl

end Opens

end Attempt

theorem Machine.changesWarm_of_step {machine after : Machine} {action : Option Action}
    (priced : setting.rules.PricesAccesses) (step : machine.step setting = (action, after))
    (acts : machine.journal.isWarm machine.frame.context.address = true) :
    machine.journal.ChangesWarm after.journal := by
  rw [← final_of_step step]
  apply (Exec.reaches_step priced machine).changes acts
  rintro _ ⟨⟩

namespace FrameStack

/-- What a frame relies on: the account it acts as is warm, which is the account it creates, if any,
and what was warm when it was entered still is. -/
structure ActsWarm (setting : Setting) (start : Journal) (opened : Opened) (here : Journal) : Prop where
  changes : start.ChangesWarm here
  acts : here.isWarm opened.context.address = true
  creates : ∀ {target}, opened.kind setting = .create target → opened.context.address = target
  stays : opened.journal.StaysWarm here

variable {attempt : Attempt} {opened : Opened} {here there : Journal}

theorem ActsWarm.advance (warm : ActsWarm setting journal opened here)
    (changes : here.ChangesWarm there) : ActsWarm setting journal opened there where
  changes := warm.changes.trans changes
  acts := changes.stays.accounts _ warm.acts
  creates := warm.creates
  stays := warm.stays.trans changes.stays

theorem frameInvariant_actsWarm (priced : setting.rules.PricesAccesses)
    (accessed : attempt.Accessed journal) :
    FrameInvariant setting attempt journal (ActsWarm setting journal) where
  start := by
    intro child entered enters
    have opens := Attempt.opens_of_run enters
    have changes := opens.changesWarm priced accessed
    exact ⟨changes, opens.isWarm_context priced accessed, opens.context_eq, changes.stays⟩
  step := by
    intro stack opened outer action after underway step warm
    have acts := warm.acts
    rw [← underway.context] at acts
    exact warm.advance (Machine.changesWarm_of_step priced step acts)
  base := by
    intro opened asked here warm asks aimed
    have known := Attempt.accessed_of_asked priced warm.acts asks aimed
    exact warm.advance (known.changesWarm_base setting)
  opens := by
    intro opened asked here entered warm asks aimed opens
    have known := Attempt.accessed_of_asked priced warm.acts asks aimed
    exact warm.advance (opens.changesWarm priced known)
  runs := by
    intro opened asked here entered child caller warm asks aimed enters
    have opens := Attempt.opens_of_run enters
    have known := Attempt.accessed_of_asked priced warm.acts asks aimed
    have changes := opens.changesWarm priced known
    exact ⟨warm.changes.trans changes, opens.isWarm_context priced known, opens.context_eq,
      changes.stays⟩
  deploys := by
    intro opened here address code warm created
    have acts := warm.acts
    rw [warm.creates created] at acts
    exact warm.advance (Journal.changesWarm_setCode here acts code)
  keeps := by
    intro opened child left warm asks handed
    exact ⟨handed.changes, handed.stays.accounts _ warm.acts, warm.creates,
      warm.stays.trans handed.stays⟩

theorem Ends.changesWarm {left : Journal} {remaining : Nat} {result : FrameResult}
    {progress : Progress}
    (ends : Ends setting attempt journal ⟨attempt, journal, none⟩ remaining result left progress)
    (priced : setting.rules.PricesAccesses) (accessed : attempt.Accessed journal) :
    journal.ChangesWarm left := by
  rcases ends.left_cases (frameInvariant_actsWarm priced accessed) with based | warm | ⟨opens, _⟩
  · rw [based]
    exact accessed.changesWarm_base setting
  · exact warm.changes
  · exact opens.changesWarm priced accessed

end FrameStack

end StateTransition.Evm
