import StateTransition.Proofs.Instruction.Accesses
import StateTransition.Proofs.Instruction.Outcomes
import StateTransition.Proofs.Journal.Footprint

namespace StateTransition.Evm

/-- What is changed is warm if the account that acts is, and `needed` where something else is written
to. -/
structure Reaches (needed : Option Access) (machine after : Machine) : Prop where
  context : after.frame.context = machine.frame.context
  changes : machine.journal.isWarm machine.frame.context.address = true →
    (∀ access ∈ needed, access.isWarm machine.journal = true) →
    machine.journal.ChangesWarm after.journal

variable {needed : Option Access} {machine after : Machine}

instance (needed : Option Access) : Ordinary (Reaches needed) where
  context_eq reaches := reaches.context
  compute _ _ context _ := ⟨context, fun _ _ => .refl _⟩
  warmAccount machine address :=
    ⟨rfl, fun _ _ => .of_warms (Journal.warms_warmAccount machine.journal address)⟩
  warmSlot machine address key :=
    ⟨rfl, fun _ _ => .of_warms (Journal.warms_warmSlot machine.journal address key)⟩

theorem reaches_of_effects (effects : Relation.ReflTransGen (Reaches needed) machine after) :
    Reaches needed machine after := by
  induction effects with
  | refl => exact ⟨rfl, fun _ _ => .refl _⟩
  | @tail middle last _ reaches ih =>
    refine ⟨reaches.context.trans ih.context, ?_⟩
    intro acts warm
    have earlier := ih.changes acts warm
    apply earlier.trans (reaches.changes _ _)
    · rw [ih.context]
      exact earlier.stays.accounts _ acts
    · intro access named
      exact earlier.stays.isWarm (warm access named)

namespace Exec

variable {α β : Type} {setting : Setting} {context : CallContext}

theorem affects_bind_of_access (access : Access) {action : Exec α} {next : α → Exec β}
    (affects : Affects (Reaches none) context action)
    (warms : ∀ machine, Ensures action machine fun _ after => access.isWarm after.journal = true)
    (writes : ∀ answer, Affects (Reaches (some access)) context (next answer)) :
    Affects (Reaches none) context (action >>= next) := by
  intro machine same
  have effects := affects machine same
  have accessed := warms machine
  rw [final_bind]
  rw [final] at effects
  rw [Ensures] at accessed
  cases run : action machine with
  | error reason after =>
    rw [run] at effects
    exact effects
  | ok answer after =>
    rw [run] at effects accessed
    have reaches := reaches_of_effects
      (writes answer after ((context_eq_of_effects effects).trans same))
    apply effects.tail
    refine ⟨reaches.context, ?_⟩
    intro acts _
    apply reaches.changes acts
    rintro _ ⟨⟩
    exact accessed

theorem ensures_accessBeneficiary (rules : Rules) (beneficiary : Address) {machine : Machine} :
    Ensures (accessBeneficiary rules beneficiary) machine fun _ after =>
      rules.defines .coldAccountAccess = true → after.journal.isWarm beneficiary = true := by
  have warm := Journal.isWarm_warmAccount machine.journal beneficiary
  rw [accessBeneficiary]
  split
  · refine ensures_bind (ensures_askJournal ?_)
    split
    · apply ensures_mono (follows_useGas _)
      intro _ after follows _
      exact follows.warm.accounts beneficiary warm
    · exact ensures_pure fun _ => warm
  · rename_i free
    exact ensures_pure fun priced => absurd priced free

theorem reaches_storeStorage (priced : setting.rules.PricesAccesses) :
    Affects (Reaches none) context (storeStorage setting.rules) := by
  apply affects_requireNonStatic_bind
  intro _
  apply affects_bind (affects_readOnly setting.rules (.popMany 2))
  intro operands
  apply affects_bind (affects_readOnly setting.rules .gas)
  intro remaining
  apply affects_bind (affects_require _ _)
  intro _
  apply affects_context_bind
  simp only [priced.slots, if_true]
  apply affects_bind_of_access (.slot context.address operands[0]) (affects_warmSlot _ _)
  · intro machine
    exact ensures_askJournal (Journal.contains_warmSlot machine.journal context.address operands[0])
  intro cold
  apply affects_payAndStore
  intro machine same
  refine ⟨rfl, fun acts warm => ?_⟩
  have refunded (amount : Int) := Journal.changesWarm_addRefund machine.journal amount
  rw [same] at acts
  apply (refunded _).trans (Journal.changesWarm_setSlot _ _ _ _)
  · exact (refunded _).stays.accounts _ acts
  · exact (refunded _).stays.slots _ (warm (.slot context.address operands[0]) rfl)

theorem reaches_selfdestruct (priced : setting.rules.PricesAccesses) :
    Affects (Reaches none) context (selfdestruct setting) := by
  apply affects_requireNonStatic_bind
  intro _
  apply affects_bind (affects_readOnly setting.rules .popAddress)
  intro beneficiary
  apply affects_context_bind
  apply affects_bind_of_access (.account beneficiary)
    (affects_readOnly setting.rules (.accessBeneficiary beneficiary))
  · intro machine
    apply ensures_mono (ensures_accessBeneficiary setting.rules beneficiary)
    intro _ after warm
    exact warm priced.accounts
  intro _
  apply affects_bind (affects_readOnly setting.rules (.payForBeneficiary _ beneficiary))
  intro _
  refine affects_bind ?_ fun _ => affects_pure _
  intro machine same
  refine .single ⟨rfl, fun acts warm => ?_⟩
  rw [same] at acts
  exact Journal.changesWarmBetween_closeAccount setting.rules context.address beneficiary
    machine.journal acts (warm _ rfl)

theorem reaches_execute (priced : setting.rules.PricesAccesses) (opcode : Opcode) :
    Affects (Reaches none) context (execute setting opcode) := by
  apply affects_execute_of_writes (reaches_storeStorage priced)
  · apply affects_storeTransient setting.rules
    intro machine key value _ _
    exact ⟨rfl, fun _ _ => .of_eq rfl rfl rfl rfl rfl rfl⟩
  · apply affects_emitLog
    intro machine log _ _
    exact ⟨rfl, fun _ _ => .of_eq rfl rfl rfl rfl rfl rfl⟩
  · intro _
    exact reaches_selfdestruct priced

theorem reaches_step (priced : setting.rules.PricesAccesses) (machine : Machine) :
    Reaches none machine ((step setting).final machine) :=
  reaches_of_effects (effects_step fun _ opcode _ _ => reaches_execute priced opcode)

end Exec

end StateTransition.Evm
