import StateTransition.Proofs.FrameStack.Identity
import StateTransition.Proofs.FrameStack.Invariant
import StateTransition.Proofs.FrameStack.Termination
import StateTransition.Proofs.Instruction.Refunds

/-!
No instruction, no call and no creation takes anything from the surplus of the refund counter. The
one write that could is a creation, which wipes storage; but an account that stored something when
the transaction began is established, so that no creation is entered at its address. Only instructions
change the counter, and a run whose counter leaves the 64 bits does not go on.
-/

namespace StateTransition.Evm

variable {setting : Setting} {machine after : Machine} {journal here entered : Journal}

theorem Effect.secures (effect : Effect setting machine after)
    (fair : Gas.FairRefunds setting.rules) :
    machine.journal.Secures setting.rules after.journal := by
  cases effect with
  | compute frame context gas => exact .refl _
  | warmAccount address => exact .of_warms (Journal.warms_warmAccount _ address)
  | warmSlot address key => exact .of_warms (Journal.warms_warmSlot _ address key)
  | store key value cold mutable => exact Journal.secures_store _ _ fair key value cold
  | storeTransient key value mutable => exact .of_world rfl rfl (Int.le_refl _)
  | emit log mutable => exact .of_world rfl rfl (Int.le_refl _)
  | close beneficiary mutable => exact Journal.secures_closeAccount _ _ fair beneficiary

theorem Effects.secures (effects : Effects setting machine after)
    (fair : Gas.FairRefunds setting.rules) :
    machine.journal.Secures setting.rules after.journal := by
  induction effects with
  | refl => exact .refl _
  | tail _ effect ih => exact ih.trans (effect.secures fair)

namespace Journal

/-- An account that stored something when the transaction began. -/
structure Storing (journal : Journal) (address : Address) (account : Account) : Prop where
  held : journal.initial.get? address = some account
  stores : account.storage ≠ ∅

theorem exists_storing {address : Address} {key : Word}
    (filled : journal.initialSlot address key ≠ 0#256) :
    ∃ account, journal.Storing address account := by
  cases held : journal.initial.get? address with
  | none =>
    rw [initialSlot, World.slot, World.account, held] at filled
    exact absurd rfl filled
  | some account =>
    refine ⟨account, held, ?_⟩
    intro blank
    rw [initialSlot, World.slot, World.account_of_get? held, Account.slot, blank] at filled
    exact filled rfl

def KeepsStoring (journal : Journal) : Prop :=
  ∀ {address account}, journal.Storing address account →
    account.Established ∧ journal.Retains address account

end Journal

theorem CallRequest.Opens.secures {rules : Rules} {request : CallRequest}
    (opens : request.Opens rules journal entered) : journal.Secures rules entered := by
  rw [opens.result, payCallee]
  apply (Journal.secures_ensure journal request.address).trans
  split
  · exact Journal.secures_move _ _ _ _
  · exact Journal.secures_touch _ _

theorem CreateRequest.Opens.secures {rules : Rules} {request : CreateRequest} {target : Address}
    (opens : request.Opens rules journal target entered)
    (blank : ∀ key, journal.initialSlot target key = 0#256) : journal.Secures rules entered := by
  rw [opens.result]
  exact (Journal.secures_createAccount journal target _ blank).trans (Journal.secures_move _ _ _ _)

namespace Attempt

variable {attempt : Attempt}

theorem secures_base (setting : Setting) (journal : Journal) (attempt : Attempt) :
    journal.Secures setting.rules (attempt.base setting journal) :=
  rel_base .refl .trans Journal.secures_bumpNonce
    (fun start target => .of_warms (Journal.warms_warmTarget start target setting.rules))
    journal attempt

theorem Opens.initialSlot_eq_zero (opens : attempt.Opens setting journal entered)
    (kept : journal.KeepsStoring) {target : Address}
    (creates : attempt.kind setting journal = .create target) (key : Word) :
    journal.initialSlot target key = 0#256 := by
  apply Decidable.byContradiction
  intro filled
  obtain ⟨account, storing⟩ := Journal.exists_storing filled
  obtain ⟨established, retains⟩ := kept storing
  exact opens.kind_ne retains established creates rfl

theorem Opens.secures (opens : attempt.Opens setting journal entered)
    (kept : journal.KeepsStoring) : journal.Secures setting.rules entered := by
  have based := secures_base setting journal attempt
  have blank {target : Address} (creates : attempt.kind setting journal = .create target)
      (key : Word) : (attempt.base setting journal).initialSlot target key = 0#256 := by
    rw [Journal.initialSlot, based.initial]
    exact opens.initialSlot_eq_zero kept creates key
  apply based.trans
  cases attempt with
  | call request => exact CallRequest.Opens.secures opens
  | create request =>
    have accepted : refusesCreate setting.rules journal request = false := opens.1
    apply opens.2.secures
    apply blank
    rw [kind, accepted]
    rfl
  | deploy request target => exact CreateRequest.Opens.secures opens (blank rfl)

end Attempt

theorem CallRequest.Opens.refund {rules : Rules} {request : CallRequest}
    (opens : request.Opens rules journal entered) : entered.refund = journal.refund := by
  have ensured := (Journal.sameRecords_ensure journal request.address).refund
  rw [opens.result, payCallee]
  split
  · rw [Journal.refund_move, ensured]
  · rw [Journal.refund_touch, ensured]

theorem CreateRequest.Opens.refund {rules : Rules} {request : CreateRequest} {target : Address}
    (opens : request.Opens rules journal target entered) : entered.refund = journal.refund := by
  rw [opens.result, Journal.refund_move, Journal.refund_createAccount]

namespace Attempt

variable {attempt : Attempt}

theorem refund_base (setting : Setting) (journal : Journal) (attempt : Attempt) :
    (attempt.base setting journal).refund = journal.refund :=
  @rel_base setting (fun before after => after.refund = before.refund) (fun _ => rfl)
    (fun first second => second.trans first)
    (fun start creator => (Journal.sameRecords_bumpNonce start creator).refund)
    (fun start target => (Journal.warms_warmTarget start target setting.rules).refund)
    journal attempt

theorem Opens.refund (opens : attempt.Opens setting journal entered) :
    entered.refund = (attempt.base setting journal).refund := by
  cases attempt with
  | call request => exact CallRequest.Opens.refund opens
  | create request => exact opens.2.refund
  | deploy request target => exact CreateRequest.Opens.refund opens

end Attempt

theorem entryInvariant_of_refund (setting : Setting) {holds : Journal → Prop}
    (tells : ∀ {before after : Journal}, after.refund = before.refund → holds before →
      holds after) : EntryInvariant setting holds where
  base attempt journal := tells (attempt.refund_base setting journal)
  opens opens := tells opens.refund
  setCode address code journal := tells (Journal.sameRecords_setCode journal address code).refund

theorem runInvariant_refundFits (setting : Setting) :
    RunInvariant setting fun journal => journal.refundFits = true where
  toEntryInvariant := entryInvariant_of_refund setting fun same fits =>
    (Journal.refundFits_congr same).trans fits
  step step goes _ := (Machine.advance_of_step step goes).2

namespace FrameStack

variable {attempt : Attempt} {opened : Opened} {left : Journal} {remaining : Nat}
  {result : FrameResult} {next : Progress} {stack : FrameStack} {openings : List Opened}

theorem natAbs_refund_of_step {machine after : Machine} {action : Option Action} {most : Nat}
    (fair : Gas.FairRefunds setting.rules) (small : ∀ param, setting.rules.amount param ≤ most)
    (step : machine.step setting = (action, after)) :
    (after.journal.refund - machine.journal.refund).natAbs ≤ 2 * most := by
  have moves := Exec.movesRefund_step fair small machine rfl
  rwa [Machine.final_of_step step] at moves

/-- The refund counter moves no further than the instructions can take it that were begun. A failure
goes back to an earlier counter, for which this held with fewer instructions. -/
theorem Underway.natAbs_refund_le {most : Nat} (fair : Gas.FairRefunds setting.rules)
    (small : ∀ param, setting.rules.amount param ≤ most)
    (underway : Underway setting attempt journal stack openings) :
    HoldsAlong (fun here => (here.refund - journal.refund).natAbs ≤ 2 * most * stack.ticks) stack
      openings := by
  have entries (bound : Nat) : EntryInvariant setting fun here =>
      (here.refund - journal.refund).natAbs ≤ bound :=
    entryInvariant_of_refund setting fun same near => by rwa [same]
  induction underway with
  | start enters =>
    apply holdsAlong_start (entries 0) _ enters
    rw [Int.sub_self]
    exact Nat.le_refl 0
  | @step stack next openings underway steps ih =>
    obtain ⟨here, below⟩ := ih
    have ticks : next.ticks = stack.ticks + 1 := ticks_of_step steps
    rw [ticks, Nat.mul_succ]
    apply (transition_of_step openings steps).holdsAlong_of_step (entries _) underway.nested
    · intro opened member
      exact Nat.le_trans (below opened member) (Nat.le_add_right _ _)
    · intro action after step _
      have moved := natAbs_refund_of_step fair small step
      have before : stack.machine.journal = stack.journal := rfl
      rw [before] at moved
      omega

/-- With gas that is moderate beside the amounts of the fork, no instruction takes the counter out of
its range. -/
theorem Underway.refundFits_of_step {most : Nat} {machine : Machine} {action : Option Action}
    (fair : Gas.FairRefunds setting.rules) (small : ∀ param, setting.rules.amount param ≤ most)
    (metered : setting.rules.Metered) (moderate : 2 * most * (2 * attempt.gas + 1) < 2 ^ 63)
    (zero : journal.refund = 0) (underway : Underway setting attempt journal stack openings)
    (step : stack.machine.step setting = (action, machine)) :
    machine.journal.refundFits = true := by
  have here := (underway.natAbs_refund_le fair small).1
  have moved := natAbs_refund_of_step fair small step
  have before : stack.machine.journal = stack.journal := rfl
  have within : stack.ticks + 1 ≤ 2 * attempt.gas + 1 := by
    have bound := underway.ticks_add_workLeft_le metered
    rw [workLeft] at bound
    omega
  have total : 2 * most * (stack.ticks + 1) ≤ 2 * most * (2 * attempt.gas + 1) :=
    Nat.mul_le_mul_left _ within
  rw [Nat.mul_succ] at total
  rw [before] at moved
  apply Journal.refundFits_of_natAbs
  omega

/-- What a frame relies on: the accounts that stored something are guarded, and the surplus of the
refund counter is at least what it was at the start. -/
structure Secured (setting : Setting) (attempt : Attempt) (journal : Journal) (opened : Opened)
    (here : Journal) : Prop where
  guarded : ∀ {address account}, journal.Storing address account →
    Guarded setting attempt journal address account opened here
  secures : journal.Secures setting.rules here

/-- On what grounds the frames of an attempt keep the surplus. -/
structure Grounds (setting : Setting) (attempt : Attempt) (journal : Journal) : Prop where
  fair : Gas.FairRefunds setting.rules
  established : ∀ {address account}, journal.Storing address account → account.Established
  upheld : ∀ {address account}, journal.Storing address account →
    Upheld setting attempt journal address account journal
  calls : ∀ {request}, attempt = .call request → request.address = request.codeAddress

theorem Grounds.keepsStoring (grounds : Grounds setting attempt journal) : journal.KeepsStoring :=
  fun storing => ⟨grounds.established storing, (grounds.upheld storing).retains⟩

theorem Secured.keepsStoring (secured : Secured setting attempt journal opened here)
    (grounds : Grounds setting attempt journal) : here.KeepsStoring := by
  intro address account storing
  have before : journal.Storing address account := by
    refine ⟨?_, storing.stores⟩
    rw [← secured.secures.initial]
    exact storing.held
  exact ⟨grounds.established before, (secured.guarded before).upheld.retains⟩

theorem frameInvariant_secured (grounds : Grounds setting attempt journal) :
    FrameInvariant setting attempt journal (Secured setting attempt journal) := by
  have guards {address : Address} {account : Account} (storing : journal.Storing address account) :
      FrameInvariant setting attempt journal (Guarded setting attempt journal address account) :=
    frameInvariant_guarded (grounds.upheld storing) (grounds.established storing) grounds.calls
  constructor
  case start =>
    intro child entered enters
    exact ⟨fun storing => (guards storing).start enters,
      (Attempt.opens_of_run enters).secures grounds.keepsStoring⟩
  case step =>
    intro stack opened outer action after underway step secured
    exact ⟨fun storing => (guards storing).step underway step (secured.guarded storing),
      secured.secures.trans ((Machine.effects_of_step step).secures grounds.fair)⟩
  case base =>
    intro opened asked here secured asks aimed
    exact ⟨fun storing => (guards storing).base (secured.guarded storing) asks aimed,
      secured.secures.trans (asked.secures_base setting here)⟩
  case opens =>
    intro opened asked here entered secured asks aimed opens
    exact ⟨fun storing => (guards storing).opens (secured.guarded storing) asks aimed opens,
      secured.secures.trans (opens.secures (secured.keepsStoring grounds))⟩
  case runs =>
    intro opened asked here entered child caller secured asks aimed enters
    have opens := Attempt.opens_of_run enters
    exact ⟨fun storing => (guards storing).runs caller (secured.guarded storing) asks aimed enters,
      secured.secures.trans (opens.secures (secured.keepsStoring grounds))⟩
  case deploys =>
    intro opened here address code secured creates
    exact ⟨fun storing => (guards storing).deploys code (secured.guarded storing) creates,
      secured.secures.trans (Journal.secures_setCode here address code)⟩
  case keeps =>
    intro opened child left secured asks handed
    exact ⟨fun storing => (guards storing).keeps (secured.guarded storing) asks
      (handed.guarded storing), handed.secures⟩

theorem Underway.secures (underway : Underway setting attempt journal stack openings)
    (grounds : Grounds setting attempt journal) :
    journal.Secures setting.rules stack.journal := by
  obtain ⟨opened, outer, same, _⟩ := underway.nested.exists_served
  subst same
  exact (underway.serving (frameInvariant_secured grounds)).holds.secures

theorem Ends.secures (ends : Ends setting attempt journal opened remaining result left next)
    (grounds : Grounds setting attempt journal) : journal.Secures setting.rules left := by
  have invariant := frameInvariant_secured grounds
  have asked : journal.Secures setting.rules opened.journal ∧ opened.journal.KeepsStoring := by
    rcases ends.asked_cases invariant with outermost | ⟨parent, secured, _⟩
    · rw [outermost]
      exact ⟨.refl journal, grounds.keepsStoring⟩
    · exact ⟨secured.secures, secured.keepsStoring grounds⟩
  rcases ends.left_cases invariant with based | secured | ⟨opens, _⟩
  · rw [based]
    exact asked.1.trans (opened.attempt.secures_base setting opened.journal)
  · exact secured.secures
  · exact asked.1.trans (opens.secures asked.2)

end FrameStack

end StateTransition.Evm
