import StateTransition.Proofs.Journal.Records
import StateTransition.Proofs.Journal.Undo

namespace StateTransition.Evm

def Checkpoint.onto (earlier : Array Change) (checkpoint : Checkpoint) : Checkpoint :=
  { checkpoint with changes := earlier.size + checkpoint.changes }

namespace Journal

/-- The journal with earlier changes below its own. -/
def onto (earlier : Array Change) (journal : Journal) : Journal :=
  { journal with changes := earlier ++ journal.changes }

/-- The journal without its changes, which can no longer be undone. -/
def settled (journal : Journal) : Journal := { journal with changes := #[] }

theorem onto_settled (journal : Journal) : journal.settled.onto journal.changes = journal := by
  simp [settled, onto]

variable (earlier : Array Change) (journal : Journal) (address : Address)

@[simp] theorem account?_onto : (journal.onto earlier).account? address = journal.account? address :=
  rfl

@[simp] theorem contains_onto : (journal.onto earlier).contains address = journal.contains address :=
  rfl

@[simp] theorem balance_onto : (journal.onto earlier).balance address = journal.balance address := rfl

@[simp] theorem code_onto : (journal.onto earlier).code address = journal.code address := rfl

@[simp] theorem cannotPay_onto (amount : Word) :
    (journal.onto earlier).cannotPay address amount = journal.cannotPay address amount := rfl

@[simp] theorem isCreated_onto : (journal.onto earlier).isCreated address = journal.isCreated address :=
  rfl

@[simp] theorem isDestructed_onto :
    (journal.onto earlier).isDestructed address = journal.isDestructed address := rfl

@[simp] theorem finish_onto (cleanup : Bool) :
    (journal.onto earlier).finish cleanup = journal.finish cleanup := rfl

theorem checkpoint_onto : (journal.onto earlier).checkpoint = journal.checkpoint.onto earlier := by
  simp [checkpoint, onto, Checkpoint.onto]

theorem undo_onto (change : Change) :
    (journal.onto earlier).undo change = (journal.undo change).onto earlier := by
  cases change <;> rfl

theorem undoMany_onto {count : Nat} {journal : Journal} (within : count ≤ journal.changes.size) :
    undoMany count (journal.onto earlier) = (undoMany count journal).onto earlier := by
  induction count generalizing journal with
  | zero => rfl
  | succ count ih =>
    have recorded : 0 < journal.changes.size := by omega
    obtain ⟨rest, newest, split⟩ := Array.exists_push_of_size_pos recorded
    have newestAbove : (journal.onto earlier).changes.back? = some newest := by
      simp [onto, split, ← Array.push_append]
    have popped : { journal.onto earlier with changes := (journal.onto earlier).changes.pop } =
        Journal.onto earlier { journal with changes := journal.changes.pop } := by
      simp [onto, split, ← Array.push_append]
    have newestOwn : journal.changes.back? = some newest := by simp [split]
    rw [undoMany_of_back? newestAbove, undoMany_of_back? newestOwn, popped, undo_onto, ih]
    rw [changes_undo, Array.size_pop]
    omega

theorem revert_onto (checkpoint : Checkpoint) :
    (journal.onto earlier).revert (checkpoint.onto earlier) =
      (journal.revert checkpoint).onto earlier := by
  have counts : (journal.onto earlier).changes.size - (checkpoint.onto earlier).changes =
      journal.changes.size - checkpoint.changes := by
    simp only [onto, Checkpoint.onto, Array.size_append]
    omega
  rw [revert, counts, undoMany_onto earlier (Nat.sub_le _ _)]
  rfl

theorem ite_onto (condition : Prop) [Decidable condition] (yes no : Journal) :
    (if condition then yes.onto earlier else no.onto earlier) =
      (if condition then yes else no).onto earlier :=
  (apply_ite (Journal.onto earlier) condition yes no).symm

theorem record_onto (change : Change) :
    (journal.onto earlier).record change = (journal.record change).onto earlier := by
  simp [record, onto]

theorem warmAccount_onto :
    (journal.onto earlier).warmAccount address =
      ((journal.warmAccount address).1, (journal.warmAccount address).2.onto earlier) := by
  have warm : (journal.onto earlier).warmAccounts = journal.warmAccounts := rfl
  rw [warmAccount, warmAccount, warm]
  split
  · rfl
  · exact congrArg (Prod.mk true) (record_onto earlier
      { journal with warmAccounts := journal.warmAccounts.add address } _)

theorem warmSlot_onto (key : Word) :
    (journal.onto earlier).warmSlot address key =
      ((journal.warmSlot address key).1, (journal.warmSlot address key).2.onto earlier) := by
  have warm : (journal.onto earlier).warmSlots = journal.warmSlots := rfl
  rw [warmSlot, warmSlot, warm]
  split
  · rfl
  · exact congrArg (Prod.mk true) (record_onto earlier
      { journal with warmSlots := journal.warmSlots.add (address, key) } _)

theorem touch_onto : (journal.onto earlier).touch address = (journal.touch address).onto earlier := by
  have touched : (journal.onto earlier).touched = journal.touched := rfl
  rw [touch, touch, touched]
  split
  · rfl
  · exact record_onto earlier { journal with touched := journal.touched.add address } _

theorem ensure_onto :
    (journal.onto earlier).ensure address = (journal.ensure address).onto earlier := by
  rw [ensure, ensure, contains_onto]
  split
  · rfl
  · exact record_onto earlier { journal with world := journal.world.insert address {} } _

theorem setBalance_onto (balance : Word) :
    (journal.onto earlier).setBalance address balance =
      (journal.setBalance address balance).onto earlier := by
  simp only [setBalance, ensure_onto]
  exact record_onto earlier { journal.ensure address with world := _ } _

theorem addBalance_onto (amount : Word) :
    (journal.onto earlier).addBalance address amount =
      (journal.addBalance address amount).onto earlier :=
  setBalance_onto earlier journal address _

theorem debit_onto (amount : Word) :
    (journal.onto earlier).debit address amount = (journal.debit address amount).onto earlier :=
  setBalance_onto earlier journal address _

theorem move_onto (sender recipient : Address) (amount : Word) :
    (journal.onto earlier).move sender recipient amount =
      (journal.move sender recipient amount).onto earlier := by
  simp only [move, debit_onto, addBalance_onto, touch_onto]

theorem bumpNonce_onto :
    (journal.onto earlier).bumpNonce address = (journal.bumpNonce address).onto earlier := by
  simp only [bumpNonce, ensure_onto]
  exact record_onto earlier { journal.ensure address with world := _ } _

theorem setCode_onto (code : Bytes) :
    (journal.onto earlier).setCode address code = (journal.setCode address code).onto earlier := by
  simp only [setCode, ensure_onto]
  exact record_onto earlier { journal.ensure address with world := _ } _

theorem setSlot_onto (key value : Word) :
    (journal.onto earlier).setSlot address key value =
      (journal.setSlot address key value).onto earlier := by
  simp only [setSlot, ensure_onto]
  exact record_onto earlier { journal.ensure address with world := _ } _

theorem setTransientSlot_onto (key value : Word) :
    (journal.onto earlier).setTransientSlot address key value =
      (journal.setTransientSlot address key value).onto earlier :=
  record_onto earlier { journal with transient := _ } _

theorem createAccount_onto (nonce : UInt64) :
    (journal.onto earlier).createAccount address nonce =
      (journal.createAccount address nonce).onto earlier := by
  have marked (replaced : Journal) :
      (if (replaced.onto earlier).created.contains address then replaced.onto earlier
      else ({ replaced.onto earlier with
        created := replaced.created.add address } : Journal).record
          (.createdInTransaction address)) =
      (if replaced.created.contains address then replaced
      else ({ replaced with created := replaced.created.add address } : Journal).record
        (.createdInTransaction address)).onto earlier := by
    have created : (replaced.onto earlier).created = replaced.created := rfl
    rw [created]
    split
    · rfl
    · exact record_onto earlier { replaced with created := _ } _
  rw [createAccount, createAccount, account?_onto]
  cases journal.account? address with
  | some previous =>
    rw [← marked, ← record_onto]
    rfl
  | none =>
    rw [← marked, ← record_onto]
    rfl

theorem markDestructed_onto :
    (journal.onto earlier).markDestructed address =
      ((journal.markDestructed address).1, (journal.markDestructed address).2.onto earlier) := by
  have destructed : (journal.onto earlier).destructed = journal.destructed := rfl
  rw [markDestructed, markDestructed, destructed]
  split
  · rfl
  · exact congrArg (Prod.mk true) (record_onto earlier
      { journal with destructed := journal.destructed.add address } _)

theorem addRefund_onto (amount : Int) :
    (journal.onto earlier).addRefund amount = (journal.addRefund amount).onto earlier := by
  rw [addRefund, addRefund]
  split
  · rfl
  · exact record_onto earlier { journal with refund := journal.refund + amount } _

theorem emit_onto (log : Log) : (journal.onto earlier).emit log = (journal.emit log).onto earlier :=
  rfl

theorem closeAccount_onto (rules : Rules) (beneficiary : Address) :
    Exec.closeAccount rules address beneficiary (journal.onto earlier) =
      (Exec.closeAccount rules address beneficiary journal).onto earlier := by
  simp only [Exec.closeAccount, isCreated_onto, isDestructed_onto, addRefund_onto, ite_onto,
    balance_onto, addBalance_onto, setBalance_onto, touch_onto, markDestructed_onto]

end Journal

end StateTransition.Evm
