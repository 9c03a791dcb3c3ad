import StateTransition.Proofs.Journal.Writes

/-!
Sessions on a journal: writes, checkpoints and returns to checkpoints, in any order. Whatever a
session does, going back to the checkpoint it began with gives the journal it began with.
-/

namespace StateTransition.Evm.Journal

/-- What can be written to a journal. -/
inductive Write where
  | warmAccount (address : Address)
  | warmSlot (address : Address) (key : Word)
  | touch (address : Address)
  | ensure (address : Address)
  | setBalance (address : Address) (balance : Word)
  | addBalance (address : Address) (amount : Word)
  | subBalance (address : Address) (amount : Word)
  | transfer (sender recipient : Address) (amount : Word)
  | bumpNonce (address : Address)
  | setCode (address : Address) (code : Bytes)
  | setSlot (address : Address) (key value : Word)
  | setTransientSlot (address : Address) (key value : Word)
  | createAccount (address : Address) (nonce : UInt64)
  | markDestructed (address : Address)
  | addRefund (amount : Int)
  | emit (log : Log)
  deriving DecidableEq, Repr

def write (journal : Journal) : Write → Journal
  | .warmAccount address => (journal.warmAccount address).2
  | .warmSlot address key => (journal.warmSlot address key).2
  | .touch address => journal.touch address
  | .ensure address => journal.ensure address
  | .setBalance address balance => journal.setBalance address balance
  | .addBalance address amount => journal.addBalance address amount
  | .subBalance address amount => (journal.subBalance address amount).toOption.getD journal
  | .transfer sender recipient amount =>
    (journal.transfer sender recipient amount).toOption.getD journal
  | .bumpNonce address => journal.bumpNonce address
  | .setCode address code => journal.setCode address code
  | .setSlot address key value => journal.setSlot address key value
  | .setTransientSlot address key value => journal.setTransientSlot address key value
  | .createAccount address nonce => journal.createAccount address nonce
  | .markDestructed address => (journal.markDestructed address).2
  | .addRefund amount => journal.addRefund amount
  | .emit log => journal.emit log

inductive Operation where
  | write (write : Write)
  | checkpoint
  /-- Goes back to a checkpoint that was taken, counted from the first one. It may lie ahead of
  where the journal is by now. -/
  | revert (index : Nat)
  deriving DecidableEq, Repr

/-- A journal with the checkpoints that were taken, the first one in front. -/
structure Session where
  journal : Journal
  taken : List Checkpoint

namespace Session

def start (journal : Journal) : Session := ⟨journal, [journal.checkpoint]⟩

def apply (session : Session) : Operation → Session
  | .write write => { session with journal := session.journal.write write }
  | .checkpoint => { session with taken := session.taken ++ [session.journal.checkpoint] }
  | .revert index =>
    match session.taken[index]? with
    | some checkpoint => { session with journal := session.journal.revert checkpoint }
    | none => session

def run (session : Session) (operations : List Operation) : Session := operations.foldl apply session

structure StaysAfter (earlier : Journal) (session : Session) : Prop where
  extension : Extends earlier session.journal
  taken : ∀ checkpoint ∈ session.taken,
    earlier.changes.size ≤ checkpoint.changes ∧ earlier.logs.size ≤ checkpoint.logs

end Session

theorem extends_write (journal : Journal) (write : Write) : Extends journal (journal.write write) := by
  cases write with
  | warmAccount address => exact extends_warmAccount journal address
  | warmSlot address key => exact extends_warmSlot journal address key
  | touch address => exact extends_touch journal address
  | ensure address => exact extends_ensure journal address
  | setBalance address balance => exact extends_setBalance journal address balance
  | addBalance address amount => exact extends_addBalance journal address amount
  | subBalance address amount =>
    rw [Journal.write, subBalance]
    split
    · exact .refl journal
    · exact extends_setBalance journal address _
  | transfer sender recipient amount =>
    rw [Journal.write, transfer]
    split
    · exact .refl journal
    · exact extends_move journal sender recipient amount
  | bumpNonce address => exact extends_bumpNonce journal address
  | setCode address code => exact extends_setCode journal address code
  | setSlot address key value => exact extends_setSlot journal address key value
  | setTransientSlot address key value => exact extends_setTransientSlot journal address key value
  | createAccount address nonce => exact extends_createAccount journal address nonce
  | markDestructed address => exact extends_markDestructed journal address
  | addRefund amount => exact extends_addRefund journal amount
  | emit log => exact extends_emit journal log

theorem Extends.checkpoint_le {earlier later : Journal} (extension : Extends earlier later) :
    earlier.changes.size ≤ later.checkpoint.changes ∧ earlier.logs.size ≤ later.checkpoint.logs :=
  ⟨extension.longer, by simpa [checkpoint] using extension.logged.length_le⟩

namespace Session

variable {earlier : Journal} {session : Session}

theorem staysAfter_start (journal : Journal) : StaysAfter journal (start journal) where
  extension := .refl journal
  taken checkpoint member := by
    rw [List.mem_singleton.mp member]
    exact (Extends.refl journal).checkpoint_le

theorem staysAfter_apply (stays : StaysAfter earlier session) (operation : Operation) :
    StaysAfter earlier (session.apply operation) := by
  cases operation with
  | write write =>
    exact ⟨stays.extension.trans (extends_write session.journal write), stays.taken⟩
  | checkpoint =>
    refine ⟨stays.extension, fun checkpoint member => ?_⟩
    rcases List.mem_append.mp member with old | new
    · exact stays.taken checkpoint old
    · rw [List.mem_singleton.mp new]
      exact stays.extension.checkpoint_le
  | revert index =>
    rw [apply]
    split
    · rename_i checkpoint found
      obtain ⟨changes, logs⟩ := stays.taken checkpoint (List.mem_of_getElem? found)
      exact ⟨stays.extension.revert changes logs, stays.taken⟩
    · exact stays

theorem staysAfter_run (stays : StaysAfter earlier session) (operations : List Operation) :
    StaysAfter earlier (session.run operations) := by
  induction operations generalizing session with
  | nil => exact stays
  | cons operation rest ih => exact ih (staysAfter_apply stays operation)

/-- A session that wrote anything, went back and forth between its checkpoints, and then returns
to its beginning leaves no trace: not in the world, the warm sets, the transient slots, the
scheduled accounts, the refund counter or the logs. -/
theorem revert_run (journal : Journal) (operations : List Operation) :
    ((start journal).run operations).journal.revert journal.checkpoint = journal := by
  have stays := staysAfter_run (staysAfter_start journal) operations
  exact stays.extension.revert_checkpoint

end Session

end StateTransition.Evm.Journal
