import StateTransition.Proofs.Fork.Mainnet
import StateTransition.Proofs.Instruction.Effects
import StateTransition.Proofs.Instruction.Requests

namespace StateTransition

def Evm.Opcode.mayBeFree (rules : Rules) : Opcode → Bool
  | stop | ret | revert | selfdestruct | sstore => true
  | sload => rules.defines .coldSload
  | balance | extcodesize | extcodecopy | extcodehash | call | callcode | delegatecall
  | staticcall => rules.defines .coldAccountAccess
  | _ => false

/-- Prices that let no frame go on for nothing. -/
structure Rules.Metered (rules : Rules) : Prop where
  stipend : rules.CoversStipend
  opcode : ∀ byte opcode, rules.opcodeGas byte = some 0 → Evm.Opcode.ofByte? byte = some opcode →
    opcode.mayBeFree rules = true
  access : rules.defines .coldAccountAccess = true → 0 < rules.leastAccess
  slotAccess : ∀ cold, rules.defines .coldSload = true →
    0 < Evm.Gas.access rules .coldSload cold
  write : ∀ slot cold, 0 < (Evm.Gas.write rules slot cold).gas

namespace Evm

theorem Gas.write_pos {rules : Rules} (set : 0 < rules.amount .sstoreSet)
    (reset : 0 < rules.amount .sstoreReset)
    (noop : rules.isActive .netSstoreMetering = true → 0 < rules.amount .sstoreNoop)
    (slot : SlotWrite) (cold : Bool) : 0 < (write rules slot cold).gas := by
  have plain : 0 < (plainWrite rules slot).gas := by
    simp only [plainWrite]
    split <;> assumption
  have net (active : rules.isActive .netSstoreMetering = true) :
      0 < (netWrite rules slot).gas := by
    have cheap := noop active
    rw [netWrite]
    split
    · exact cheap
    · split
      · split <;> assumption
      · exact cheap
  simp only [write]
  apply Nat.lt_of_lt_of_le _ (Nat.le_add_right _ _)
  split
  · rename_i active
    exact net active
  · exact plain

end Evm

namespace Mainnet

theorem sstore_prices_pos (fork : Fork) :
    0 < (rules fork).amount .sstoreSet ∧ 0 < (rules fork).amount .sstoreReset ∧
      ((rules fork).isActive .netSstoreMetering = true → 0 < (rules fork).amount .sstoreNoop) := by
  simp only [Rules.amount, Rules.isActive, value_rules]
  cases fork <;> decide

theorem access_prices_pos (fork : Fork) (priced : Fork.berlin ≤ fork) :
    0 < (rules fork).amount .coldAccountAccess ∧ 0 < (rules fork).amount .coldSload ∧
      0 < (rules fork).amount .warmStorageRead := by
  simp only [Rules.amount, value_rules]
  revert priced
  cases fork <;> decide

theorem mayBeFree_of_opcodeGas (fork : Fork) (byte : UInt8) (opcode : Evm.Opcode)
    (free : (rules fork).opcodeGas byte = some 0) (named : Evm.Opcode.ofByte? byte = some opcode) :
    opcode.mayBeFree (rules fork) = true := by
  rw [opcodeGas_rules] at free
  obtain ⟨value, known, zero⟩ := Option.map_eq_some_iff.mp free
  have nothing : value = 0 := UInt64.toNat_inj.mp zero
  rw [nothing] at known
  obtain ⟨earlier, before, member⟩ := mem_assignments_of_value known
  rcases free_of_mem member with always | ⟨same, later⟩
  · simp only [List.mem_cons, List.not_mem_nil, or_false] at always
    rcases always with rfl | rfl | rfl | rfl | rfl <;> cases named <;> rfl
  · subst same
    have accounts : (rules fork).defines .coldAccountAccess = true := by
      rw [defines_coldAccountAccess]
      exact decide_eq_true before
    have slots : (rules fork).defines .coldSload = true := by
      rw [defines_coldSload]
      exact decide_eq_true before
    simp only [List.mem_cons, List.not_mem_nil, or_false] at later
    rcases later with rfl | rfl | rfl | rfl | rfl | rfl | rfl | rfl | rfl <;> cases named <;>
      assumption

theorem metered (fork : Fork) : (rules fork).Metered where
  stipend := callStipend_le_callValueTransfer fork
  opcode := mayBeFree_of_opcodeGas fork
  access priced := by
    have berlin : Fork.berlin ≤ fork := by simpa [defines_coldAccountAccess] using priced
    obtain ⟨cold, slot, warm⟩ := access_prices_pos fork berlin
    rw [Rules.leastAccess, if_pos priced]
    exact Nat.lt_min.mpr ⟨cold, warm⟩
  slotAccess cold priced := by
    have berlin : Fork.berlin ≤ fork := by simpa [defines_coldSload] using priced
    obtain ⟨account, slot, warm⟩ := access_prices_pos fork berlin
    rw [Evm.Gas.access, if_pos priced]
    cases cold <;> assumption
  write := by
    obtain ⟨set, reset, noop⟩ := sstore_prices_pos fork
    exact Evm.Gas.write_pos set reset noop

end Mainnet

namespace Evm

/-- A frame that goes on after an instruction, or waits for a child, has less gas than before, what
it hands on included. -/
def Control.Charged (before after : Machine) : Control → Prop
  | .next => after.frame.gas < before.frame.gas
  | .call request => after.frame.gas + request.gas < before.frame.gas
  | .create request => after.frame.gas + request.gas < before.frame.gas
  | _ => True

theorem Control.Charged.of_gas_le {before paid after : Machine} {control : Control}
    (charged : control.Charged paid after) (gas : paid.frame.gas ≤ before.frame.gas) :
    control.Charged before after := by
  cases control with
  | next => exact Nat.lt_of_lt_of_le charged gas
  | call request | create request => exact Nat.lt_of_lt_of_le charged gas
  | _ => trivial

theorem Control.Issued.charged {rules : Rules} {before paid after : Machine} {control : Control}
    (issued : control.Issued rules paid after) (covers : rules.CoversStipend)
    (spends : after.frame.gas ≤ paid.frame.gas) (price : paid.frame.gas < before.frame.gas) :
    control.Charged before after := by
  cases control with
  | next => exact Nat.lt_of_le_of_lt spends price
  | call request =>
    have paid := CallRequest.Issued.paid issued covers
    change after.frame.gas + request.gas < before.frame.gas
    omega
  | create request => exact Nat.lt_of_le_of_lt (CreateRequest.Issued.paid issued) price
  | _ => trivial

namespace Exec

variable {α β : Type} {machine : Machine} {least : Nat}

def Costs (least : Nat) (action : Exec α) : Prop :=
  ∀ machine, Ensures action machine fun _ after => after.frame.gas + least ≤ machine.frame.gas

theorem costs_bind_first {action : Exec α} {next : α → Exec β} (first : Costs least action)
    (rest : ∀ answer, Costs 0 (next answer)) : Costs least (action >>= next) := by
  intro machine
  refine ensures_bind (ensures_mono (first machine) fun answer middle spent => ?_)
  apply ensures_mono (rest answer middle)
  intro _ after later
  omega

theorem costs_bind_rest {action : Exec α} {next : α → Exec β} (first : Costs 0 action)
    (rest : ∀ answer, Costs least (next answer)) : Costs least (action >>= next) := by
  intro machine
  refine ensures_bind (ensures_mono (first machine) fun answer middle spent => ?_)
  apply ensures_mono (rest answer middle)
  intro _ after later
  omega

theorem costs_of_readOnly (setting : Setting) {action : Exec α}
    (composed : Composed setting.rules .readOnly action) : Costs 0 action := by
  intro machine
  have effects : Effects setting machine (action.final machine) :=
    affects_readOnly setting.rules composed machine rfl
  rw [final] at effects
  rw [Ensures]
  cases run : action machine with
  | ok answer after =>
    rw [run] at effects
    exact effects.gas_le
  | error reason after => trivial

theorem costs_useGas {amount : Nat} (enough : least ≤ amount) : Costs least (useGas amount) := by
  intro machine
  apply ensures_mono (ensures_useGas amount)
  intro _ after spent
  omega

theorem costs_journal : Costs 0 journal := fun _ => Nat.le_refl _

theorem costs_modifyJournal (change : Journal → Journal) : Costs 0 (modifyJournal change) :=
  fun _ => Nat.le_refl _

theorem costs_accessAccount (rules : Rules) (address : Address) :
    Costs rules.leastAccess (accessAccount rules address) := by
  intro machine
  apply ensures_mono (ensures_accessAccount address)
  intro _ after access
  exact access.1

variable (setting : Setting)

theorem costs_readAccount (read : Journal → Address → Word)
    (blind : ∀ journal changes, read { journal with changes } = read journal) :
    Costs setting.rules.leastAccess (readAccount setting.rules read) := by
  apply costs_bind_rest (costs_of_readOnly setting .popAddress)
  intro address
  apply costs_bind_first (costs_accessAccount setting.rules address)
  intro _
  apply costs_of_readOnly setting
  exact .readJournal (fun journal changes => by rw [blind]) fun _ => .push _ rfl

theorem costs_copyExternalCode :
    Costs setting.rules.leastAccess (copyExternalCode setting.rules) := by
  apply costs_bind_rest (costs_of_readOnly setting .popAddress)
  intro address
  apply costs_bind_rest (costs_of_readOnly setting .popThree)
  intro operands
  apply costs_bind_first (costs_accessAccount setting.rules address)
  intro _
  apply costs_of_readOnly setting
  apply Composed.bind (.memoryRange _ _)
  intro memory
  apply Composed.bind (.useGas _)
  intro _
  exact .readJournal (fun _ _ => rfl) fun _ => .writeBytes _ _ rfl

variable {setting}

theorem costs_loadStorage (metered : setting.rules.Metered)
    (priced : setting.rules.defines .coldSload = true) :
    Costs 1 (loadStorage setting.rules) := by
  apply costs_bind_rest (costs_of_readOnly setting .pop)
  intro key
  apply costs_bind_rest (costs_of_readOnly setting .context)
  intro context
  simp only [if_pos priced]
  apply costs_bind_rest (costs_of_readOnly setting (.warmSlot _ _))
  intro cold
  apply costs_bind_first (costs_useGas (metered.slotAccess cold priced))
  intro _
  exact costs_of_readOnly setting (.readJournal (fun _ _ => rfl) fun _ => .push _ rfl)

theorem costs_storeStorage (metered : setting.rules.Metered) :
    Costs 1 (storeStorage setting.rules) := by
  have pays (address : Address) (key value : Word) (cold : Bool) : Costs 1 (do
      let journal ← journal
      let price := Gas.write setting.rules
        ⟨journal.initialSlot address key, journal.slot address key, value⟩ cold
      useGas price.gas
      modifyJournal fun journal =>
        (journal.addRefund price.refund).setSlot address key value : Exec Unit) := by
    apply costs_bind_rest costs_journal
    intro journal
    exact costs_bind_first (costs_useGas (metered.write _ cold)) fun _ => costs_modifyJournal _
  apply costs_bind_rest (costs_of_readOnly setting .requireNonStatic)
  intro _
  apply costs_bind_rest (costs_of_readOnly setting (.popMany 2))
  intro operands
  apply costs_bind_rest (costs_of_readOnly setting .gas)
  intro remaining
  apply costs_bind_rest (costs_of_readOnly setting (.require _ (by decide)))
  intro _
  apply costs_bind_rest (costs_of_readOnly setting .context)
  intro context
  split
  · exact costs_bind_rest (costs_of_readOnly setting (.warmSlot _ _)) fun cold => pays _ _ _ cold
  · exact costs_bind_rest (costs_of_readOnly setting (.pure false)) fun cold => pays _ _ _ cold

theorem charged_proceed {action : Exec Unit} (costs : Costs least action) (some : 0 < least) :
    Ensures (proceed action) machine fun control after => control.Charged machine after := by
  refine ensures_bind (ensures_mono (costs machine) fun _ after spent => ensures_pure ?_)
  change after.frame.gas < machine.frame.gas
  omega

theorem charged_call (metered : setting.rules.Metered)
    (priced : setting.rules.defines .coldAccountAccess = true) (scheme : CallScheme)
    (known : (setting.rules.opcodeGas scheme.opcode.toByte).isSome = true) :
    Ensures (call setting scheme) machine fun control after => control.Charged machine after := by
  have access := metered.access priced
  apply ensures_mono (delivers_call setting scheme).2
  rintro _ after ⟨request, rfl, issued⟩
  have spent := (issued known).paid metered.stipend
  change after.frame.gas + request.gas < machine.frame.gas
  omega

theorem charged_execute_of_free (metered : setting.rules.Metered) {opcode : Opcode}
    (free : opcode.mayBeFree setting.rules = true)
    (known : (setting.rules.opcodeGas opcode.toByte).isSome = true) :
    Ensures (execute setting opcode) machine fun control after =>
      control.Charged machine after := by
  cases opcode with
  -- these end their frame
  | stop => exact ensures_pure trivial
  | ret | revert => exact ensures_skip fun _ _ => ensures_pure trivial
  | selfdestruct =>
    apply ensures_mono (ensures_selfdestruct setting)
    rintro _ after rfl
    trivial
  -- and these are charged for the slot or the account they work on
  | sstore => exact charged_proceed (costs_storeStorage metered) Nat.one_pos
  | sload => exact charged_proceed (costs_loadStorage metered free) Nat.one_pos
  | balance | extcodesize | extcodehash =>
    exact charged_proceed (costs_readAccount setting _ fun _ _ => rfl) (metered.access free)
  | extcodecopy => exact charged_proceed (costs_copyExternalCode setting) (metered.access free)
  | call => exact charged_call metered free .call known
  | callcode => exact charged_call metered free .callCode known
  | delegatecall => exact charged_call metered free .delegateCall known
  | staticcall => exact charged_call metered free .staticCall known
  | _ => cases free

theorem charged_execute_of_paid {before : Machine} (metered : setting.rules.Metered)
    {opcode : Opcode} (known : (setting.rules.opcodeGas opcode.toByte).isSome = true)
    (price : machine.frame.gas < before.frame.gas) :
    Ensures (execute setting opcode) machine fun control after =>
      control.Charged before after := by
  have issued : Ensures (execute setting opcode) machine fun control after =>
      control.Issued setting.rules machine after := issued_execute known
  have effects : Effects setting machine ((execute setting opcode).final machine) :=
    affects_execute opcode machine rfl
  rw [final] at effects
  rw [Ensures] at issued ⊢
  cases run : execute setting opcode machine with
  | ok control after =>
    rw [run] at issued effects
    exact issued.charged metered.stipend effects.gas_le price
  | error reason after => trivial

theorem charged_step (metered : setting.rules.Metered) (machine : Machine) :
    Ensures (step setting) machine fun control after => control.Charged machine after := by
  apply ensures_step_of_execute
  · trivial
  · intro byte opcode price stands
    cases price with
    | zero =>
      have free := metered.opcode byte opcode stands.priced stands.named
      apply ensures_mono (charged_execute_of_free metered free stands.isSome)
      intro control after charged
      exact charged.of_gas_le (Nat.sub_le _ _)
    | succ price =>
      apply charged_execute_of_paid metered stands.isSome
      exact Nat.sub_lt_of_pos_le (Nat.succ_pos price) stands.enough

end Exec

end Evm

end StateTransition
