import Mathlib.Logic.Relation
import StateTransition.Proofs.Instruction.Composition
import StateTransition.Proofs.Journal.Records

/-!
What instructions can do to the running frame and to the journal. Whether it ends well or halts, an
instruction is a run of the effects listed here; what every effect keeps, every instruction keeps.
-/

namespace StateTransition.Evm

inductive Effect (setting : Setting) (machine : Machine) : Machine → Prop where
  | compute (frame : Frame) (context : frame.context = machine.frame.context)
      (gas : frame.gas ≤ machine.frame.gas) : Effect setting machine { machine with frame }
  | warmAccount (address : Address) :
      Effect setting machine { machine with journal := (machine.journal.warmAccount address).2 }
  | warmSlot (address : Address) (key : Word) :
      Effect setting machine { machine with journal := (machine.journal.warmSlot address key).2 }
  | store (key value : Word) (cold : Bool) (mutable : machine.frame.context.isStatic = false) :
      Effect setting machine { machine with
        journal := (machine.journal.addRefund (Gas.write setting.rules
          ⟨machine.journal.initialSlot machine.frame.context.address key,
            machine.journal.slot machine.frame.context.address key, value⟩ cold).refund).setSlot
          machine.frame.context.address key value }
  | storeTransient (key value : Word) (mutable : machine.frame.context.isStatic = false) :
      Effect setting machine { machine with
        journal := machine.journal.setTransientSlot machine.frame.context.address key value }
  | emit (log : Log) (mutable : machine.frame.context.isStatic = false) :
      Effect setting machine { machine with journal := machine.journal.emit log }
  | close (beneficiary : Address) (mutable : machine.frame.context.isStatic = false) :
      Effect setting machine { machine with
        journal := Exec.closeAccount setting.rules machine.frame.context.address beneficiary
          machine.journal }

/-- Effects one after the other. -/
abbrev Effects (setting : Setting) : Machine → Machine → Prop :=
  Relation.ReflTransGen (Effect setting)

variable {setting : Setting} {machine after : Machine}

theorem Effect.context_eq (effect : Effect setting machine after) :
    after.frame.context = machine.frame.context := by
  cases effect with
  | compute frame context gas => exact context
  | _ => rfl

theorem Effect.gas_le (effect : Effect setting machine after) :
    after.frame.gas ≤ machine.frame.gas := by
  cases effect with
  | compute frame context gas => exact gas
  | _ => exact Nat.le_refl _

class Ordinary (effect : Machine → Machine → Prop) : Prop where
  context_eq : ∀ {machine after}, effect machine after → after.frame.context = machine.frame.context
  compute : ∀ (machine : Machine) (frame : Frame), frame.context = machine.frame.context →
    frame.gas ≤ machine.frame.gas → effect machine { machine with frame }
  warmAccount : ∀ (machine : Machine) (address : Address),
    effect machine { machine with journal := (machine.journal.warmAccount address).2 }
  warmSlot : ∀ (machine : Machine) (address : Address) (key : Word),
    effect machine { machine with journal := (machine.journal.warmSlot address key).2 }

instance (setting : Setting) : Ordinary (Effect setting) where
  context_eq effect := effect.context_eq
  compute _ frame context gas := .compute frame context gas
  warmAccount _ address := .warmAccount address
  warmSlot _ address key := .warmSlot address key

structure Spares (setting : Setting) (machine after : Machine) : Prop where
  effect : Effect setting machine after
  destructed : after.journal.destructed = machine.journal.destructed

instance (setting : Setting) : Ordinary (Spares setting) where
  context_eq spares := spares.effect.context_eq
  compute _ frame context gas := ⟨.compute frame context gas, rfl⟩
  warmAccount machine address :=
    ⟨.warmAccount address, (Journal.warms_warmAccount machine.journal address).destructed⟩
  warmSlot machine address key :=
    ⟨.warmSlot address key, (Journal.warms_warmSlot machine.journal address key).destructed⟩

def CountsWrites (setting : Setting) (effect : Machine → Machine → Prop) : Prop :=
  ∀ {machine after}, Spares setting machine after → effect machine after

theorem context_eq_of_effects {effect : Machine → Machine → Prop} [Ordinary effect]
    (effects : Relation.ReflTransGen effect machine after) :
    after.frame.context = machine.frame.context := by
  induction effects with
  | refl => rfl
  | tail _ effect ih => exact (Ordinary.context_eq effect).trans ih

theorem Effects.context_eq (effects : Effects setting machine after) :
    after.frame.context = machine.frame.context :=
  context_eq_of_effects effects

theorem destructed_of_spares (effects : Relation.ReflTransGen (Spares setting) machine after) :
    after.journal.destructed = machine.journal.destructed := by
  induction effects with
  | refl => rfl
  | tail _ spares ih => exact spares.destructed.trans ih

theorem Effects.gas_le (effects : Effects setting machine after) :
    after.frame.gas ≤ machine.frame.gas := by
  induction effects with
  | refl => exact Nat.le_refl _
  | tail _ effect ih => exact Nat.le_trans effect.gas_le ih

namespace Exec

def final {α : Type} (action : Exec α) (machine : Machine) : Machine :=
  match action machine with
  | .ok _ after => after
  | .error _ after => after

/-- An action of a frame with a given context does nothing but run effects. -/
def Affects {α : Type} (effect : Machine → Machine → Prop) (context : CallContext)
    (action : Exec α) : Prop :=
  ∀ machine, machine.frame.context = context →
    Relation.ReflTransGen effect machine (action.final machine)

variable {effect : Machine → Machine → Prop}

section Composition

variable {α β : Type} {context : CallContext}

theorem final_bind (action : Exec α) (next : α → Exec β) (machine : Machine) :
    (action >>= next).final machine =
      match action machine with
      | .ok answer after => (next answer).final after
      | .error _ after => after := by
  simp only [final, bind, EStateM.bind]
  cases action machine <;> rfl

theorem affects_pure (answer : α) : Affects effect context (pure answer : Exec α) :=
  fun _ _ => .refl

theorem affects_throw (reason : Halt) : Affects effect context (throw reason : Exec α) :=
  fun _ _ => .refl

theorem affects_ite {condition : Prop} [Decidable condition] {yes no : Exec α}
    (whenTrue : condition → Affects effect context yes)
    (whenFalse : ¬ condition → Affects effect context no) :
    Affects effect context (if condition then yes else no) := by
  split
  · exact whenTrue ‹_›
  · exact whenFalse ‹_›

theorem affects_read {action : Exec α} (read : ∀ machine, action.final machine = machine) :
    Affects effect context action := by
  intro machine same
  rw [read]

theorem affects_context_bind {next : CallContext → Exec α}
    (affects : Affects effect context (next context)) :
    Affects effect context (Exec.context >>= next) := by
  intro machine same
  rw [final_bind]
  simp only [Exec.context, same]
  exact affects machine same

theorem affects_requireNonStatic_bind {next : Exec α}
    (affects : context.isStatic = false → Affects effect context next) :
    Affects effect context (requireNonStatic >>= fun _ => next) := by
  intro machine same
  rw [final_bind]
  cases frozen : context.isStatic with
  | true =>
    have halts : requireNonStatic machine = .error .staticCallViolation machine := by
      simp [requireNonStatic, Exec.context, require, bind, EStateM.bind, same, frozen]
    rw [halts]
  | false =>
    have passes : requireNonStatic machine = .ok () machine := by
      simp [requireNonStatic, Exec.context, require, bind, EStateM.bind, same, frozen]
    rw [passes]
    exact affects frozen machine same

variable [Ordinary effect]

theorem affects_bind {action : Exec α} {next : α → Exec β} (first : Affects effect context action)
    (second : ∀ answer, Affects effect context (next answer)) :
    Affects effect context (action >>= next) := by
  intro machine same
  have effects := first machine same
  rw [final_bind]
  rw [final] at effects
  cases run : action machine with
  | ok answer after =>
    rw [run] at effects
    exact effects.trans (second answer after ((context_eq_of_effects effects).trans same))
  | error reason after =>
    rw [run] at effects
    exact effects

theorem affects_ite_bind {condition : Prop} [Decidable condition] {yes no : Exec α}
    {next : α → Exec β} (whenTrue : Affects effect context yes)
    (whenFalse : Affects effect context no)
    (rest : ∀ answer, Affects effect context (next answer)) :
    Affects effect context (if condition then yes >>= next else no >>= next) :=
  affects_ite (fun _ => affects_bind whenTrue rest) fun _ => affects_bind whenFalse rest

theorem affects_compute {action : Exec α}
    (computes : ∀ machine, ∃ frame : Frame, action.final machine = { machine with frame } ∧
      frame.context = machine.frame.context ∧ frame.gas ≤ machine.frame.gas) :
    Affects effect context action := by
  intro machine same
  obtain ⟨frame, result, context, gas⟩ := computes machine
  rw [result]
  exact .single (Ordinary.compute machine frame context gas)

end Composition

section Steps

variable {α : Type} {context : CallContext}

theorem affects_require (condition : Bool) (reason : Halt) :
    Affects effect context (require condition reason) := by
  apply affects_read
  intro machine
  cases condition <;> rfl

theorem affects_loadWord (offset : Nat) : Affects effect context (loadWord offset) := by
  apply affects_read
  intro machine
  cases loaded : machine.frame.memory.load? offset <;> simp [final, loadWord, loaded]

theorem affects_readBytes (offset size : Nat) :
    Affects effect context (readBytes offset size) := by
  apply affects_read
  intro machine
  cases sliced : machine.frame.memory.slice? offset size <;> simp [final, readBytes, sliced]

variable [Ordinary effect]

theorem affects_modifyFrame (change : Frame → Frame)
    (keeps : ∀ frame, (change frame).context = frame.context ∧ (change frame).gas ≤ frame.gas) :
    Affects effect context (modifyFrame change) :=
  affects_compute fun machine =>
    ⟨change machine.frame, rfl, (keeps machine.frame).1, (keeps machine.frame).2⟩

theorem affects_onStack (action : StackAction α) : Affects effect context (onStack action) := by
  apply affects_compute
  intro machine
  cases run : action machine.frame.stack with
  | ok answer stack =>
    exact ⟨{ machine.frame with stack }, by simp [final, onStack, run], rfl, Nat.le_refl _⟩
  | error reason stack =>
    exact ⟨{ machine.frame with stack }, by simp [final, onStack, run], rfl, Nat.le_refl _⟩

theorem affects_useGas (amount : Nat) : Affects effect context (useGas amount) := by
  apply affects_compute
  intro machine
  by_cases short : machine.frame.gas < amount
  · exact ⟨machine.frame, by simp [final, useGas, short], rfl, Nat.le_refl _⟩
  · exact ⟨{ machine.frame with gas := machine.frame.gas - amount },
      by simp [final, useGas, short], rfl, Nat.sub_le _ _⟩

theorem affects_writeBytes (offset : Nat) (data : Bytes) :
    Affects effect context (writeBytes offset data) := by
  apply affects_compute
  intro machine
  by_cases covered : machine.frame.memory.covers offset data.length
  · exact ⟨{ machine.frame with memory := machine.frame.memory.write offset data },
      by simp [final, writeBytes, covered], rfl, Nat.le_refl _⟩
  · exact ⟨machine.frame, by simp [final, writeBytes, covered], rfl, Nat.le_refl _⟩

theorem affects_jump (destination : Word) : Affects effect context (jump destination) := by
  apply affects_compute
  intro machine
  by_cases known : machine.frame.code.isDestination destination.toNat
  · exact ⟨{ machine.frame with position := destination.toNat },
      by simp [final, jump, known], rfl, Nat.le_refl _⟩
  · exact ⟨machine.frame, by simp [final, jump, known], rfl, Nat.le_refl _⟩

theorem affects_memoryRange (rules : Rules) (offset size : Word) :
    Affects effect context (memoryRange rules offset size) := by
  apply affects_ite (fun _ => affects_pure _)
  intro _
  apply affects_bind (affects_require _ _)
  intro _
  apply affects_bind (affects_read fun _ => rfl)
  intro frame
  apply affects_bind (affects_useGas _)
  intro _
  exact affects_bind (affects_modifyFrame _ fun _ => ⟨rfl, Nat.le_refl _⟩) fun _ => affects_pure _

theorem affects_warmAccount (address : Address) :
    Affects effect context (askJournal (·.warmAccount address)) :=
  fun machine _ => .single (Ordinary.warmAccount machine address)

theorem affects_warmSlot (address : Address) (key : Word) :
    Affects effect context (askJournal (·.warmSlot address key)) :=
  fun machine _ => .single (Ordinary.warmSlot machine address key)

/-- By induction on how an action is put together: one that does not write computes, pays and
warms. -/
theorem Composed.affects {rules : Rules} {powers : Powers} {action : Exec α}
    (composed : Composed rules powers action) (calm : powers.writes = false) :
    Affects effect context action := by
  induction composed with
  | pure answer => exact affects_pure answer
  | throw _ => exact affects_throw _
  | bind _ _ first rest => exact affects_bind first rest
  | readJournal _ _ rest => exact fun machine => rest machine.journal machine
  | frame | context | gas => exact affects_read fun _ => rfl
  | require condition _ => exact affects_require condition _
  | loadWord offset _ => exact affects_loadWord offset
  | readBytes offset size _ => exact affects_readBytes offset size
  | writeBytes offset data _ => exact affects_writeBytes offset data
  | push | dup | swap | pop | popMany | popEach => exact affects_onStack _
  | useGas amount => exact affects_useGas amount
  | memoryRange offset size => exact affects_memoryRange rules offset size
  | forget | skip => exact affects_modifyFrame _ fun _ => ⟨rfl, Nat.le_refl _⟩
  | jump destination _ => exact affects_jump destination
  | warmAccount address => exact affects_warmAccount address
  | warmSlot address key => exact affects_warmSlot address key
  | store _ _ _ _ allowed | storeTransient _ _ _ allowed | emit _ allowed | close _ _ allowed =>
    exact absurd (calm.symm.trans allowed) (by decide)

theorem affects_readOnly (rules : Rules) {action : Exec α}
    (composed : Composed rules .readOnly action) : Affects effect context action :=
  composed.affects rfl

end Steps

section Instructions

variable {context : CallContext} [Ordinary effect]

theorem affects_payAndStore {address : Address} (key value : Word) (cold : Bool)
    (stores : ∀ machine : Machine, machine.frame.context = context → effect machine { machine with
      journal := (machine.journal.addRefund (Gas.write setting.rules
        ⟨machine.journal.initialSlot address key, machine.journal.slot address key, value⟩
          cold).refund).setSlot address key value }) :
    Affects effect context (do
      let journal ← journal
      let price := Gas.write setting.rules
        ⟨journal.initialSlot address key, journal.slot address key, value⟩ cold
      useGas price.gas
      modifyJournal fun journal =>
        (journal.addRefund price.refund).setSlot address key value : Exec Unit) := by
  intro machine same
  let price := Gas.write setting.rules
    ⟨machine.journal.initialSlot address key, machine.journal.slot address key, value⟩ cold
  by_cases short : machine.frame.gas < price.gas
  · have halts : useGas price.gas machine = .error .outOfGas machine := by simp [useGas, short]
    rw [final_bind]
    simp only [journal]
    rw [final_bind, halts]
  · let paid : Machine :=
      { machine with frame := { machine.frame with gas := machine.frame.gas - price.gas } }
    have pays : useGas price.gas machine = .ok () paid := by simp [useGas, short, paid]
    have pay : effect machine paid := Ordinary.compute machine paid.frame rfl (Nat.sub_le _ _)
    rw [final_bind]
    simp only [journal]
    rw [final_bind, pays]
    exact .tail (.single pay) (stores paid same)

theorem affects_storeStorage (counts : CountsWrites setting effect) :
    Affects effect context (storeStorage setting.rules) := by
  apply affects_requireNonStatic_bind
  intro mutable
  apply affects_bind (affects_readOnly setting.rules (.popMany 2))
  intro operands
  apply affects_bind (affects_readOnly setting.rules .gas)
  intro remaining
  apply affects_bind (affects_require _ _)
  intro _
  apply affects_context_bind
  apply affects_ite_bind (affects_warmSlot _ _) (affects_pure false)
  intro cold
  apply affects_payAndStore
  intro machine same
  subst same
  have kept (refund : Int) := (Journal.sameRecords_setSlot (machine.journal.addRefund refund)
    machine.frame.context.address operands[0] operands[1]).destructed
  simp only [Journal.destructed_addRefund] at kept
  exact counts ⟨.store operands[0] operands[1] cold mutable, kept _⟩

theorem affects_storeTransient (rules : Rules)
    (stores : ∀ (machine : Machine) (key value : Word), machine.frame.context = context →
      context.isStatic = false → effect machine { machine with
        journal := machine.journal.setTransientSlot context.address key value }) :
    Affects effect context storeTransient := by
  apply affects_requireNonStatic_bind
  intro mutable
  apply affects_bind (affects_readOnly rules (.popMany 2))
  intro operands
  apply affects_context_bind
  intro machine same
  exact .single (stores machine operands[0] operands[1] same mutable)

theorem affects_emitLog
    (emits : ∀ (machine : Machine) (log : Log), machine.frame.context = context →
      context.isStatic = false →
      effect machine { machine with journal := machine.journal.emit log })
    (rules : Rules) (topicCount : Nat) :
    Affects effect context (emitLog rules topicCount) := by
  apply affects_requireNonStatic_bind
  intro mutable
  apply affects_bind (affects_readOnly rules (.popMany 2))
  intro range
  apply affects_bind (affects_readOnly rules (.popEach topicCount))
  intro topics
  apply affects_bind (affects_memoryRange rules _ _)
  intro memory
  apply affects_bind (affects_useGas _)
  intro _
  apply affects_bind (affects_readBytes _ _)
  intro data
  apply affects_context_bind
  intro machine same
  exact .single (emits machine _ same mutable)

theorem affects_closeAccount (beneficiary : Address) (mutable : context.isStatic = false) :
    Affects (Effect setting) context
      (modifyJournal (closeAccount setting.rules context.address beneficiary)) := by
  intro machine same
  subst same
  exact .single (.close beneficiary mutable)

theorem affects_selfdestruct : Affects (Effect setting) context (selfdestruct setting) := by
  apply affects_requireNonStatic_bind
  intro mutable
  apply affects_bind (affects_readOnly setting.rules .popAddress)
  intro beneficiary
  apply affects_context_bind
  apply affects_bind (affects_readOnly setting.rules (.accessBeneficiary beneficiary))
  intro _
  apply affects_bind (affects_readOnly setting.rules (.payForBeneficiary _ beneficiary))
  intro _
  exact affects_bind (affects_closeAccount beneficiary mutable) fun _ => affects_pure _

theorem affects_execute_of_writes {opcode : Opcode}
    (stores : Affects effect context (storeStorage setting.rules))
    (storesTransient : Affects effect context storeTransient)
    (emits : ∀ topicCount, Affects effect context (emitLog setting.rules topicCount))
    (closes : opcode = .selfdestruct → Affects effect context (selfdestruct setting)) :
    Affects effect context (execute setting opcode) := by
  cases opcode with
  | sstore => exact affects_bind stores fun _ => affects_pure _
  | tstore => exact affects_bind storesTransient fun _ => affects_pure _
  | log topics => exact affects_bind (emits _) fun _ => affects_pure _
  | selfdestruct => exact closes rfl
  | _ => exact (Composed.execute _).affects rfl

theorem affects_execute_of_ne (counts : CountsWrites setting effect) {opcode : Opcode}
    (other : opcode ≠ .selfdestruct) : Affects effect context (execute setting opcode) := by
  apply affects_execute_of_writes (affects_storeStorage counts)
  · apply affects_storeTransient setting.rules
    intro machine key value same mutable
    subst same
    exact counts ⟨.storeTransient key value mutable, rfl⟩
  · apply affects_emitLog
    intro machine log same mutable
    subst same
    exact counts ⟨.emit log mutable, rfl⟩
  · intro closes
    exact absurd closes other

theorem affects_execute (opcode : Opcode) :
    Affects (Effect setting) context (execute setting opcode) := by
  by_cases closes : opcode = .selfdestruct
  · rw [closes]
    exact affects_selfdestruct
  · exact affects_execute_of_ne (fun spares => spares.effect) closes

/-- A step does what the instruction does that the frame is at. -/
theorem effects_step {machine : Machine}
    (executes : ∀ byte opcode,
      machine.frame.code.bytes[machine.frame.position]? = some byte →
      Opcode.ofByte? byte = some opcode →
      Affects effect machine.frame.context (execute setting opcode)) :
    Relation.ReflTransGen effect machine ((step setting).final machine) := by
  rw [step, final_bind]
  simp only [frame]
  cases next : machine.frame.code.bytes[machine.frame.position]? with
  | none => exact .refl
  | some byte =>
    simp only
    cases setting.rules.opcodeGas byte with
    | none => exact .refl
    | some price =>
      cases named : Opcode.ofByte? byte with
      | none => exact .refl
      | some opcode =>
        have affects : Affects effect machine.frame.context (do
            useGas price
            modifyFrame fun frame => { frame with position := frame.position + 1 }
            execute setting opcode) := by
          apply affects_bind (affects_useGas price)
          intro _
          refine affects_bind (affects_modifyFrame _ fun _ => ⟨rfl, Nat.le_refl _⟩) fun _ => ?_
          exact executes byte opcode next named
        exact affects machine rfl

theorem affects_step : Affects (Effect setting) context (step setting) :=
  fun _ _ => effects_step fun _ opcode _ _ => affects_execute opcode

end Instructions

end Exec

end StateTransition.Evm
