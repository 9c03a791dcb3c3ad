import StateTransition.Proofs.Instruction.Effects
import StateTransition.Proofs.Journal.Refund

namespace StateTransition.Evm

/-- The refund counter stays as it is. -/
structure SameRefund (machine after : Machine) : Prop where
  context : after.frame.context = machine.frame.context
  refund : after.journal.refund = machine.journal.refund

instance : Ordinary SameRefund where
  context_eq same := same.context
  compute _ _ context _ := ⟨context, rfl⟩
  warmAccount machine address :=
    ⟨rfl, (Journal.warms_warmAccount machine.journal address).refund⟩
  warmSlot machine address key :=
    ⟨rfl, (Journal.warms_warmSlot machine.journal address key).refund⟩

theorem refund_of_effects {machine after : Machine}
    (effects : Relation.ReflTransGen SameRefund machine after) :
    after.journal.refund = machine.journal.refund := by
  induction effects with
  | refl => rfl
  | tail _ same ih => exact same.refund.trans ih

namespace Exec

variable {α β : Type} {rules : Rules} {setting : Setting} {context : CallContext} {most : Nat}

/-- However it ends, the action moves the refund counter by no more than an amount. -/
def MovesRefund {α : Type} (most : Nat) (context : CallContext) (action : Exec α) : Prop :=
  ∀ machine, machine.frame.context = context →
    ((action.final machine).journal.refund - machine.journal.refund).natAbs ≤ most

theorem movesRefund_of_affects {action : Exec α} (affects : Affects SameRefund context action) :
    MovesRefund most context action := by
  intro machine same
  rw [refund_of_effects (affects machine same), Int.sub_self]
  exact Nat.zero_le most

theorem movesRefund_bind {action : Exec α} {next : α → Exec β}
    (first : Affects SameRefund context action)
    (rest : ∀ answer, MovesRefund most context (next answer)) :
    MovesRefund most context (action >>= next) := by
  intro machine same
  have effects := first machine same
  rw [final_bind]
  rw [final] at effects
  cases run : action machine with
  | error reason after =>
    rw [run] at effects
    rw [refund_of_effects effects, Int.sub_self]
    exact Nat.zero_le most
  | ok answer after =>
    rw [run] at effects
    rw [← refund_of_effects effects]
    exact rest answer after ((context_eq_of_effects effects).trans same)

theorem movesRefund_skip (rules : Rules) {action : Exec α} {next : α → Exec β}
    (composed : Composed rules .readOnly action)
    (rest : ∀ answer, MovesRefund most context (next answer)) :
    MovesRefund most context (action >>= next) :=
  movesRefund_bind (affects_readOnly rules composed) rest

theorem movesRefund_ite_bind (rules : Rules) {condition : Prop} [Decidable condition]
    {yes no : Exec α} {next : α → Exec β} (whenTrue : Composed rules .readOnly yes)
    (whenFalse : Composed rules .readOnly no)
    (rest : ∀ answer, MovesRefund most context (next answer)) :
    MovesRefund most context (if condition then yes >>= next else no >>= next) := by
  split
  · exact movesRefund_skip rules whenTrue rest
  · exact movesRefund_skip rules whenFalse rest

theorem movesRefund_readJournal {next : Journal → Exec α}
    (rest : ∀ journal, MovesRefund most context (next journal)) :
    MovesRefund most context (journal >>= next) :=
  fun machine => rest machine.journal machine

theorem movesRefund_store {refund : Int} (bounded : refund.natAbs ≤ most) (address : Address)
    (key value : Word) : MovesRefund most context
      (modifyJournal fun journal => (journal.addRefund refund).setSlot address key value) := by
  intro machine _
  obtain ⟨changes, adds⟩ := machine.journal.exists_addRefund_eq refund
  have stored := (Journal.sameRecords_setSlot (machine.journal.addRefund refund) address key
    value).refund
  rw [adds] at stored
  have moved : (modifyJournal (fun journal =>
      (journal.addRefund refund).setSlot address key value) |>.final machine).journal.refund =
        machine.journal.refund + refund := by
    simp only [final, modifyJournal, adds, stored]
  rw [moved]
  omega

theorem movesRefund_storeStorage (fair : Gas.FairRefunds rules)
    (small : ∀ param, rules.amount param ≤ most) :
    MovesRefund (2 * most) context (storeStorage rules) := by
  apply movesRefund_skip rules .requireNonStatic
  intro _
  apply movesRefund_skip rules (.popMany 2)
  intro operands
  apply movesRefund_skip rules .gas
  intro remaining
  apply movesRefund_skip rules (.require _ (by decide))
  intro _
  apply movesRefund_skip rules .context
  intro acting
  apply movesRefund_ite_bind rules (.warmSlot _ _) (.pure false)
  intro cold
  apply movesRefund_readJournal
  intro journal
  apply movesRefund_skip rules (.useGas _)
  intro _
  exact movesRefund_store (Gas.natAbs_refund_write_le fair small _ cold) _ _ _

theorem movesRefund_selfdestruct (fair : Gas.FairRefunds setting.rules)
    (small : ∀ param, setting.rules.amount param ≤ most) :
    MovesRefund (2 * most) context (selfdestruct setting) := by
  apply movesRefund_skip setting.rules .requireNonStatic
  intro _
  apply movesRefund_skip setting.rules .popAddress
  intro beneficiary
  apply movesRefund_skip setting.rules .context
  intro acting
  apply movesRefund_skip setting.rules (.accessBeneficiary beneficiary)
  intro _
  apply movesRefund_skip setting.rules (.payForBeneficiary _ beneficiary)
  intro _ machine _
  have amount := small .selfdestructRefund
  have closed := Journal.refund_closeAccount machine.journal acting.address setting.rules beneficiary
  rw [fair.signed_eq] at closed
  change ((closeAccount setting.rules acting.address beneficiary machine.journal).refund -
    machine.journal.refund).natAbs ≤ 2 * most
  omega

theorem movesRefund_proceed {action : Exec Unit} (moves : MovesRefund most context action) :
    MovesRefund most context (proceed action) := by
  intro machine same
  have moved := moves machine same
  rw [proceed, final_bind]
  rw [final] at moved
  cases run : action machine with
  | ok answer after | error reason after =>
    rw [run] at moved
    exact moved

/-- One instruction writes once at most, or closes its account. -/
theorem movesRefund_execute (fair : Gas.FairRefunds setting.rules)
    (small : ∀ param, setting.rules.amount param ≤ most) (opcode : Opcode) :
    MovesRefund (2 * most) context (execute setting opcode) := by
  cases opcode with
  | sstore => exact movesRefund_proceed (movesRefund_storeStorage fair small)
  | selfdestruct => exact movesRefund_selfdestruct fair small
  | tstore =>
    exact movesRefund_proceed (movesRefund_of_affects
      (affects_storeTransient setting.rules fun _ _ _ _ _ => ⟨rfl, rfl⟩))
  | log topics =>
    exact movesRefund_proceed (movesRefund_of_affects
      (affects_emitLog (fun _ _ _ _ => ⟨rfl, rfl⟩) setting.rules _))
  | _ => exact movesRefund_of_affects ((Composed.execute _).affects rfl)

theorem movesRefund_step (fair : Gas.FairRefunds setting.rules)
    (small : ∀ param, setting.rules.amount param ≤ most) :
    MovesRefund (2 * most) context (step setting) := by
  apply movesRefund_skip setting.rules .frame
  intro current
  split
  · exact movesRefund_of_affects (affects_pure _)
  · split
    · apply movesRefund_skip setting.rules (.useGas _)
      intro _
      apply movesRefund_skip setting.rules (.skip 1 rfl)
      intro _
      exact movesRefund_execute fair small _
    · exact movesRefund_of_affects (affects_throw _)

end Exec

end StateTransition.Evm
