import StateTransition.Proofs.Instruction.Effects
import StateTransition.Proofs.Instruction.Requests
import StateTransition.Proofs.Journal.Records
import StateTransition.Proofs.Journal.Session

namespace StateTransition.Evm

/-- What an action says about the frame before and after the instruction that leads to it. -/
def Action.Backed (rules : Rules) (before after : Machine) : Action → Prop
  | .call request => request.Issued rules before after
  | .create request => request.Issued before after
  | .finish result => result.gasLeft = if result.isHalt then 0 else after.frame.gas
  | .overflow => True

namespace Machine

variable {setting : Setting} {machine after : Machine}

theorem step_eq (setting : Setting) (machine : Machine) :
    machine.step setting =
      (if (machine.advance setting).2.journal.refundFits then (machine.advance setting).1
        else some .overflow, (machine.advance setting).2) := rfl

/-- A step that does not stop everything is the instruction, and leaves the refund counter in its
range. -/
theorem advance_of_step {action : Option Action} (step : machine.step setting = (action, after))
    (goes : action ≠ some .overflow) :
    machine.advance setting = (action, after) ∧ after.journal.refundFits = true := by
  rw [step_eq] at step
  cases advances : machine.advance setting with
  | mk made reached =>
    rw [advances] at step
    obtain ⟨stops, rfl⟩ := Prod.mk.inj step
    cases fits : reached.journal.refundFits with
    | true =>
      rw [if_pos fits] at stops
      exact ⟨congrArg (·, reached) stops, rfl⟩
    | false =>
      rw [if_neg (by simp [fits])] at stops
      exact absurd stops.symm goes

theorem advance_ne_overflow (setting : Setting) (machine : Machine) :
    (machine.advance setting).1 ≠ some .overflow := by
  rw [advance]
  cases Exec.step setting machine with
  | ok control after => cases control <;> simp
  | error reason after => simp

theorem ne_overflow_of_refundFits {action : Option Action}
    (step : machine.step setting = (action, after)) (fits : after.journal.refundFits = true) :
    action ≠ some .overflow := by
  rw [step_eq] at step
  obtain ⟨made, reached⟩ := Prod.mk.inj step
  rw [reached, if_pos fits] at made
  rw [← made]
  exact advance_ne_overflow setting machine

theorem final_of_step {action : Option Action} (step : machine.step setting = (action, after)) :
    (Exec.step setting).final machine = after := by
  have same : (machine.advance setting).2 = (Exec.step setting).final machine := by
    rw [Machine.advance, Exec.final]
    cases Exec.step setting machine with
    | ok control after => cases control <;> rfl
    | error reason after => rfl
  rw [← same]
  exact congrArg Prod.snd ((step_eq setting machine).symm.trans step)

theorem effects_of_step {action : Option Action} (step : machine.step setting = (action, after)) :
    Effects setting machine after := by
  have affects : Effects setting machine ((Exec.step setting).final machine) :=
    Exec.affects_step machine rfl
  rwa [final_of_step step] at affects

theorem backed_of_advance {action : Action}
    (advances : machine.advance setting = (some action, after)) :
    action.Backed setting.rules machine after := by
  rw [Machine.advance] at advances
  cases run : Exec.step setting machine with
  | ok control reached =>
    rw [run] at advances
    have issued := (Exec.issued_step setting machine).of_run run
    cases control with
    | next => cases advances
    | call request | create request =>
      cases advances
      exact issued
    | stop | finish output | revert output =>
      cases advances
      rfl
  | error reason reached =>
    rw [run] at advances
    cases advances
    rfl

theorem backed_of_step {action : Action} (step : machine.step setting = (some action, after)) :
    action.Backed setting.rules machine after := by
  by_cases stops : action = .overflow
  · subst stops
    trivial
  · exact backed_of_advance (advance_of_step step (by simpa using stops)).1

end Machine

namespace Journal

theorem extends_closeAccount (rules : Rules) (address beneficiary : Address) (journal : Journal) :
    Extends journal (Exec.closeAccount rules address beneficiary journal) :=
  rel_closeAccount .refl .trans (fun start => extends_addRefund start _)
    (fun start amount => extends_addBalance start beneficiary amount)
    (fun start => extends_setBalance start address 0#256)
    (fun start => extends_touch start beneficiary)
    (fun start => extends_markDestructed start address) journal

theorem Extends.effect {setting : Setting} {machine after : Machine}
    (effect : Effect setting machine after) : Extends machine.journal after.journal := by
  cases effect with
  | compute frame context gas => exact .refl _
  | warmAccount address => exact extends_warmAccount _ address
  | warmSlot address key => exact extends_warmSlot _ address key
  | store key value cold mutable => exact (extends_addRefund _ _).trans (extends_setSlot _ _ key value)
  | storeTransient key value mutable => exact extends_setTransientSlot _ _ key value
  | emit log mutable => exact extends_emit _ log
  | close beneficiary mutable => exact extends_closeAccount _ _ beneficiary _

theorem Extends.effects {setting : Setting} {machine after : Machine}
    (effects : Effects setting machine after) : Extends machine.journal after.journal := by
  induction effects with
  | refl => exact .refl _
  | tail _ effect ih => exact ih.trans (.effect effect)

end Journal

/-- What a result gives back of the gas that was left: nothing after a halt. -/
def FrameResult.Returns (result : FrameResult) (remaining : Nat) : Prop :=
  result.gasLeft = if result.isHalt then 0 else remaining

theorem FrameResult.Returns.gasLeft_le {result : FrameResult} {remaining : Nat}
    (returns : result.Returns remaining) : result.gasLeft ≤ remaining := by
  rw [returns]
  split
  · exact Nat.zero_le _
  · exact Nat.le_refl _

/-- How a frame is settled that had `remaining` gas left: it failed and is undone, it keeps what it
wrote, or it created an account that gets code. -/
inductive Settles (base : Journal) (kind : FrameKind) (remaining : Nat) (journal : Journal) :
    FrameResult × Journal → Prop where
  | fails {result : FrameResult} (failed : result.isSuccess = false)
      (returns : result.Returns remaining) : Settles base kind remaining journal (result, base)
  | keeps {result : FrameResult} (succeeded : result.isSuccess = true)
      (left : result.gasLeft ≤ remaining) : Settles base kind remaining journal (result, journal)
  | deploys {result : FrameResult} {address : Address} (code : Bytes)
      (created : kind = .create address) (succeeded : result.isSuccess = true)
      (left : result.gasLeft ≤ remaining) :
      Settles base kind remaining journal (result, journal.setCode address code)

theorem settles_settle (rules : Rules) {base journal : Journal} (kind : FrameKind)
    {raw : FrameResult} {remaining : Nat} (returns : raw.Returns remaining)
    (extension : Journal.Extends base journal) :
    Settles base kind remaining journal (settle rules journal kind base.checkpoint raw) := by
  have reverted : journal.revert base.checkpoint = base := extension.revert_checkpoint
  have left := returns.gasLeft_le
  have unchanged : Settles base kind remaining journal
      (raw, if raw.isSuccess then journal else journal.revert base.checkpoint) := by
    cases succeeded : raw.isSuccess with
    | true => exact .keeps succeeded left
    | false =>
      rw [if_neg (by simp), reverted]
      exact .fails succeeded returns
  have halts (reason : Halt) : Settles base kind remaining journal
      (.halt reason, journal.revert base.checkpoint) := by
    rw [reverted]
    exact .fails rfl rfl
  cases kind with
  | call offset size => exact unchanged
  | create address =>
    by_cases succeeded : raw.isSuccess
    · simp only [settle, if_pos succeeded, depositCode]
      split
      · exact halts .invalidCodePrefix
      · split
        · exact halts .maxCodeSizeExceeded
        · split
          · split
            · exact halts .outOfGas
            · exact .keeps rfl left
          · exact .deploys _ rfl rfl (Nat.le_trans (Nat.sub_le _ _) left)
    · simp only [settle, if_neg succeeded]
      rw [if_neg succeeded] at unchanged
      exact unchanged

/-- How a call or creation begins that falls back to `base` and hands on `gas`. What it writes
before any code runs is described by `Opens`. -/
inductive Begins (base : Journal) (kind : FrameKind) (context : CallContext) (gas : Nat)
    (Opens : Journal → Prop) : Entry × Journal → Prop where
  | fails {result : FrameResult} (failed : result.isSuccess = false)
      (returns : result.Returns gas) : Begins base kind context gas Opens (.done kind result, base)
  | idles : Begins base kind context gas Opens (.done kind (.success gas []), base)
  | completes {opened : Journal} {result : FrameResult} (opens : Opens opened)
      (succeeded : result.isSuccess = true) (left : result.gasLeft ≤ gas) :
      Begins base kind context gas Opens (.done kind result, opened)
  | runs {opened : Journal} (opens : Opens opened) (code : Bytes) :
      Begins base kind context gas Opens
        (.run ⟨Frame.start context code gas, kind, base.checkpoint⟩, opened)

theorem Begins.mono {base : Journal} {kind : FrameKind} {context : CallContext} {gas : Nat}
    {Opens Weaker : Journal → Prop} {start : Entry × Journal}
    (begins : Begins base kind context gas Opens start)
    (implies : ∀ opened, Opens opened → Weaker opened) :
    Begins base kind context gas Weaker start := by
  cases begins with
  | fails failed returns => exact .fails failed returns
  | idles => exact .idles
  | completes opens succeeded left => exact .completes (implies _ opens) succeeded left
  | runs opens code => exact .runs (implies _ opens) code

structure CallRequest.Opens (rules : Rules) (journal : Journal) (request : CallRequest)
    (opened : Journal) : Prop where
  accepted : refusesCall rules journal request = false
  busy : isIdle rules journal request = false
  result : opened = payCallee (journal.ensure request.address) request

structure CreateRequest.Opens (rules : Rules) (base : Journal) (request : CreateRequest)
    (address : Address) (opened : Journal) : Prop where
  vacant : isOccupied base address = false
  payable : (base.createAccount address (freshNonce rules)).cannotPay request.caller request.value =
    false
  result : opened =
    (base.createAccount address (freshNonce rules)).move request.caller address request.value

namespace Journal

theorem extends_payCallee (journal : Journal) (request : CallRequest) :
    Extends journal (payCallee journal request) := by
  rw [payCallee]
  split
  · exact extends_move journal _ _ _
  · exact extends_touch journal _

theorem extends_warmTarget (rules : Rules) (journal : Journal) (address : Address) :
    Extends journal (warmTarget rules journal address) := by
  rw [warmTarget]
  split
  · exact extends_warmAccount journal address
  · exact .refl journal

end Journal

theorem CallRequest.Opens.extends {rules : Rules} {journal opened : Journal} {request : CallRequest}
    (opens : request.Opens rules journal opened) : Journal.Extends journal opened := by
  rw [opens.result]
  exact (Journal.extends_ensure journal _).trans (Journal.extends_payCallee _ request)

theorem payable_of_accepted {rules : Rules} {journal : Journal} {request : CallRequest}
    (accepted : refusesCall rules journal request = false) (transfers : request.transfers = true) :
    (journal.ensure request.address).cannotPay request.caller request.value = false := by
  rw [refusesCall, transfers, Bool.true_and, Bool.or_eq_false_iff] at accepted
  have same : (journal.ensure request.address).balance request.caller =
      journal.balance request.caller := by
    rw [Journal.balance, World.balance, Journal.account_ensure]
    rfl
  rw [Journal.cannotPay, same]
  exact accepted.2

theorem CreateRequest.Opens.extends {rules : Rules} {base opened : Journal}
    {request : CreateRequest} {address : Address}
    (opens : request.Opens rules base address opened) : Journal.Extends base opened := by
  rw [opens.result]
  exact (Journal.extends_createAccount base address _).trans (Journal.extends_move _ _ _ _)

theorem begins_startCall (setting : Setting) (journal : Journal) (request : CallRequest) :
    Begins journal (.call request.returnOffset request.returnSize) request.context request.gas
      (request.Opens setting.rules journal) (startCall setting journal request) := by
  rw [startCall]
  by_cases refused : refusesCall setting.rules journal request
  · rw [if_pos refused]
    exact .fails rfl rfl
  by_cases idle : isIdle setting.rules journal request
  · rw [if_neg refused, if_pos idle]
    exact .idles
  rw [if_neg refused, if_neg idle]
  have opens : request.Opens setting.rules journal
      (payCallee (journal.ensure request.address) request) :=
    ⟨by simpa using refused, by simpa using idle, rfl⟩
  simp only [enterCode]
  split
  · rename_i contract provided
    split
    · exact .completes opens rfl (Nat.sub_le _ _)
    · rw [opens.extends.revert_checkpoint]
      exact .fails rfl rfl
  · split
    · exact .completes opens rfl (Nat.le_refl _)
    · exact .runs opens _

theorem begins_enterCreate (setting : Setting) (journal : Journal) (request : CreateRequest)
    (address : Address) :
    Begins (warmTarget setting.rules journal address) (.create address) (request.context address)
      request.gas
      (request.Opens setting.rules (warmTarget setting.rules journal address) address)
      (enterCreate setting journal request address) := by
  simp only [enterCreate]
  by_cases occupied : isOccupied (warmTarget setting.rules journal address) address
  · rw [if_pos occupied]
    exact .fails rfl rfl
  rw [if_neg occupied]
  split
  · rw [(Journal.extends_createAccount _ address _).revert_checkpoint]
    exact .fails rfl rfl
  · rename_i payable
    have opens : request.Opens setting.rules (warmTarget setting.rules journal address) address
        (((warmTarget setting.rules journal address).createAccount address
          (freshNonce setting.rules)).move request.caller address request.value) :=
      ⟨by simpa using occupied, by simpa using payable, rfl⟩
    split
    · exact .completes opens rfl (Nat.le_refl _)
    · exact .runs opens _

namespace Attempt

def gas : Attempt → Nat
  | .call request => request.gas
  | .create request => request.gas
  | .deploy request _ => request.gas

/-- The journal an attempt falls back to: as it is where the attempt takes its checkpoint or, for
one that is refused before that, where it is refused. -/
def base (setting : Setting) (journal : Journal) : Attempt → Journal
  | .call _ => journal
  | .create request =>
    if refusesCreate setting.rules journal request then journal
    else warmTarget setting.rules (journal.bumpNonce request.caller) (createTarget journal request)
  | .deploy _ address => warmTarget setting.rules journal address

def kind (setting : Setting) (journal : Journal) : Attempt → FrameKind
  | .call request => .call request.returnOffset request.returnSize
  | .create request =>
    .create (if refusesCreate setting.rules journal request then Address.zero
      else createTarget journal request)
  | .deploy _ address => .create address

def context (journal : Journal) : Attempt → CallContext
  | .call request => request.context
  | .create request => request.context (createTarget journal request)
  | .deploy request address => request.context address

/-- What an attempt has written, on top of its base, when its code begins to run. -/
def Opens (setting : Setting) (journal : Journal) : Attempt → Journal → Prop
  | .call request, opened => request.Opens setting.rules journal opened
  | .create request, opened =>
    refusesCreate setting.rules journal request = false ∧
      request.Opens setting.rules ((Attempt.create request).base setting journal)
        (createTarget journal request) opened
  | .deploy request address, opened =>
    request.Opens setting.rules ((Attempt.deploy request address).base setting journal) address
      opened

variable {setting : Setting} {journal : Journal}

/-- Up to its base an attempt counts up the nonce of a creator and warms the address of a creation,
at most. So a relation that is kept by both, and composes, leads to the base. -/
theorem rel_base {relation : Journal → Journal → Prop} (refl : ∀ journal, relation journal journal)
    (trans : ∀ {before middle after}, relation before middle → relation middle after →
      relation before after)
    (bumps : ∀ journal address, relation journal (journal.bumpNonce address))
    (warms : ∀ journal address, relation journal (warmTarget setting.rules journal address))
    (journal : Journal) (attempt : Attempt) :
    relation journal (attempt.base setting journal) := by
  cases attempt with
  | call request => exact refl journal
  | create request =>
    rw [base]
    split
    · exact refl journal
    · exact trans (bumps journal _) (warms _ _)
  | deploy request address => exact warms journal address

theorem extends_base (setting : Setting) (journal : Journal) (attempt : Attempt) :
    Journal.Extends journal (attempt.base setting journal) :=
  rel_base .refl .trans Journal.extends_bumpNonce (Journal.extends_warmTarget setting.rules)
    journal attempt

theorem Opens.extends {attempt : Attempt} {opened : Journal}
    (opens : attempt.Opens setting journal opened) :
    Journal.Extends (attempt.base setting journal) opened := by
  cases attempt with
  | call request => exact CallRequest.Opens.extends opens
  | create request => exact CreateRequest.Opens.extends opens.2
  | deploy request address => exact CreateRequest.Opens.extends opens

theorem begins_enter (setting : Setting) (journal : Journal) (attempt : Attempt) :
    Begins (attempt.base setting journal) (attempt.kind setting journal) (attempt.context journal)
      attempt.gas (attempt.Opens setting journal) (attempt.enter setting journal) := by
  cases attempt with
  | call request => exact begins_startCall setting journal request
  | deploy request address => exact begins_enterCreate setting journal request address
  | create request =>
    by_cases refused : refusesCreate setting.rules journal request
    · simp only [enter, startCreate, base, kind, if_pos refused]
      exact .fails rfl rfl
    · have begins := begins_enterCreate setting (journal.bumpNonce request.caller) request
        (createTarget journal request)
      have opens (opened : Journal) (created : request.Opens setting.rules
          (warmTarget setting.rules (journal.bumpNonce request.caller) (createTarget journal request))
          (createTarget journal request) opened) :
          (Attempt.create request).Opens setting journal opened := by
        constructor
        · simpa using refused
        · rw [base, if_neg refused]
          exact created
      simp only [enter, startCreate, base, kind, if_neg refused]
      exact begins.mono opens

end Attempt

end StateTransition.Evm
