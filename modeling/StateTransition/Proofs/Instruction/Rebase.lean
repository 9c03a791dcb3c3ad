import StateTransition.Proofs.Instruction.Composition
import StateTransition.Proofs.Journal.Rebase

namespace StateTransition.Evm

def Machine.onto (earlier : Array Change) (machine : Machine) : Machine :=
  { machine with journal := machine.journal.onto earlier }

namespace Exec

def resultOnto {α : Type} (earlier : Array Change) :
    EStateM.Result Halt Machine α → EStateM.Result Halt Machine α
  | .ok answer machine => .ok answer (machine.onto earlier)
  | .error reason machine => .error reason (machine.onto earlier)

def Rebases {α : Type} (earlier : Array Change) (action : Exec α) : Prop :=
  ∀ machine, action (machine.onto earlier) = resultOnto earlier (action machine)

variable {α β : Type} {earlier : Array Change} {rules : Rules} {setting : Setting}

theorem rebases_bind {action : Exec α} {next : α → Exec β} (first : Rebases earlier action)
    (rest : ∀ answer, Rebases earlier (next answer)) : Rebases earlier (action >>= next) := by
  intro machine
  simp only [bind, EStateM.bind, first machine]
  cases action machine with
  | ok answer middle => exact rest answer middle
  | error reason middle => rfl

theorem rebases_readJournal {next : Journal → Exec α}
    (blind : ∀ journal changes, next { journal with changes } = next journal)
    (rest : ∀ journal, Rebases earlier (next journal)) : Rebases earlier (journal >>= next) := by
  intro machine
  have same : next (machine.journal.onto earlier) = next machine.journal :=
    blind machine.journal (earlier ++ machine.journal.changes)
  calc next (machine.journal.onto earlier) (machine.onto earlier)
    _ = next machine.journal (machine.onto earlier) := by rw [same]
    _ = resultOnto earlier (next machine.journal machine) := rest machine.journal machine

theorem rebases_onStack (action : StackAction α) : Rebases earlier (onStack action) := by
  intro machine
  simp only [onStack, Machine.onto]
  cases action machine.frame.stack <;> rfl

theorem rebases_useGas (amount : Nat) : Rebases earlier (useGas amount) := by
  intro machine
  by_cases short : machine.frame.gas < amount
  · simp [useGas, Machine.onto, resultOnto, short]
  · simp [useGas, Machine.onto, resultOnto, short]

theorem rebases_require (condition : Bool) (reason : Halt) :
    Rebases earlier (require condition reason) := by
  intro machine
  cases condition <;> rfl

theorem rebases_loadWord (offset : Nat) : Rebases earlier (loadWord offset) := by
  intro machine
  simp only [loadWord, Machine.onto]
  cases machine.frame.memory.load? offset <;> rfl

theorem rebases_readBytes (offset size : Nat) : Rebases earlier (readBytes offset size) := by
  intro machine
  simp only [readBytes, Machine.onto]
  cases machine.frame.memory.slice? offset size <;> rfl

theorem rebases_writeBytes (offset : Nat) (data : Bytes) :
    Rebases earlier (writeBytes offset data) := by
  intro machine
  by_cases covered : machine.frame.memory.covers offset data.length
  · simp [writeBytes, Machine.onto, resultOnto, covered]
  · simp [writeBytes, Machine.onto, resultOnto, covered]

theorem rebases_modifyFrame (change : Frame → Frame) : Rebases earlier (modifyFrame change) :=
  fun _ => rfl

theorem rebases_modifyJournal {change : Journal → Journal}
    (rebases : ∀ journal, change (journal.onto earlier) = (change journal).onto earlier) :
    Rebases earlier (modifyJournal change) := by
  intro machine
  simp only [modifyJournal, Machine.onto, rebases]
  rfl

theorem rebases_askJournal {change : Journal → α × Journal}
    (rebases : ∀ journal, change (journal.onto earlier) =
      ((change journal).1, (change journal).2.onto earlier)) :
    Rebases earlier (askJournal change) := by
  intro machine
  simp only [askJournal, Machine.onto, rebases]
  rfl

theorem rebases_jump (destination : Word) : Rebases earlier (jump destination) := by
  intro machine
  by_cases allowed : machine.frame.code.isDestination destination.toNat
  · simp [jump, Machine.onto, resultOnto, allowed]
  · simp [jump, Machine.onto, resultOnto, allowed]

theorem rebases_memoryRange (offset size : Word) :
    Rebases earlier (memoryRange rules offset size) := by
  rw [memoryRange]
  split
  · exact fun _ => rfl
  · apply rebases_bind (rebases_require _ _)
    intro _
    apply rebases_bind fun _ => rfl
    intro current
    apply rebases_bind (rebases_useGas _)
    intro _
    exact rebases_bind (rebases_modifyFrame _) fun _ _ => rfl

theorem Composed.rebases {powers : Powers} {action : Exec α}
    (composed : Composed rules powers action) : Rebases earlier action := by
  induction composed with
  | pure | throw | frame | context | gas => exact fun _ => rfl
  | bind _ _ first rest => exact rebases_bind first rest
  | readJournal blind _ rest => exact rebases_readJournal blind rest
  | require condition _ => exact rebases_require condition _
  | loadWord offset _ => exact rebases_loadWord offset
  | readBytes offset size _ => exact rebases_readBytes offset size
  | push | pop | popMany | popEach | dup | swap => exact rebases_onStack _
  | useGas amount => exact rebases_useGas amount
  | memoryRange offset size => exact rebases_memoryRange offset size
  | writeBytes offset data _ => exact rebases_writeBytes offset data
  | forget | skip => exact rebases_modifyFrame _
  | jump destination _ => exact rebases_jump destination
  | warmAccount address =>
    exact rebases_askJournal fun journal => journal.warmAccount_onto earlier address
  | warmSlot address key =>
    exact rebases_askJournal fun journal => journal.warmSlot_onto earlier address key
  | store refund address key value _ =>
    apply rebases_modifyJournal
    intro journal
    rw [Journal.addRefund_onto, Journal.setSlot_onto]
  | storeTransient address key value _ =>
    exact rebases_modifyJournal fun journal => journal.setTransientSlot_onto earlier address key value
  | emit log _ => exact rebases_modifyJournal fun journal => journal.emit_onto earlier log
  | close address beneficiary _ =>
    exact rebases_modifyJournal fun journal =>
      journal.closeAccount_onto earlier address rules beneficiary

theorem rebases_step : Rebases earlier (step setting) := by
  apply rebases_bind fun _ => rfl
  intro current
  cases current.code.bytes[current.position]? with
  | none => exact fun _ => rfl
  | some byte =>
    dsimp only
    split
    · apply rebases_bind (rebases_useGas _)
      intro _
      exact rebases_bind (rebases_modifyFrame _) fun _ => (Composed.execute _).rebases
    · exact fun _ => rfl

end Exec

theorem Machine.advance_onto (setting : Setting) (earlier : Array Change) (machine : Machine) :
    (machine.onto earlier).advance setting =
      ((machine.advance setting).1, (machine.advance setting).2.onto earlier) := by
  rw [Machine.advance, Machine.advance, Exec.rebases_step machine]
  cases Exec.step setting machine with
  | ok control after => cases control <;> rfl
  | error reason after => rfl

theorem Machine.step_onto (setting : Setting) (earlier : Array Change) (machine : Machine) :
    (machine.onto earlier).step setting =
      ((machine.step setting).1, (machine.step setting).2.onto earlier) := by
  simp only [Machine.step, Machine.advance_onto]
  rfl

end StateTransition.Evm
