import StateTransition.Evm.Journal

/-!
What undoing gives back. A journal extends an earlier one when undoing its newer changes leads
there and the earlier logs are still in front; every write extends the journal it starts from.
-/

namespace StateTransition.Evm.Journal

@[simp] theorem changes_undo (journal : Journal) (change : Change) :
    (journal.undo change).changes = journal.changes := by
  cases change <;> rfl

@[simp] theorem logs_undo (journal : Journal) (change : Change) :
    (journal.undo change).logs = journal.logs := by
  cases change <;> rfl

theorem undo_withLogs (journal : Journal) (change : Change) (logs : Array Log) :
    { journal with logs }.undo change = { journal.undo change with logs } := by
  cases change <;> rfl

theorem undoMany_of_back? {journal : Journal} {change : Change}
    (newest : journal.changes.back? = some change) (count : Nat) :
    undoMany (count + 1) journal =
      undoMany count ({ journal with changes := journal.changes.pop }.undo change) := by
  rw [undoMany, newest]

theorem undoMany_of_empty {journal : Journal} (empty : journal.changes.back? = none)
    (count : Nat) : undoMany count journal = journal := by
  cases count with
  | zero => rfl
  | succ count => rw [undoMany, empty]

@[simp] theorem logs_undoMany (count : Nat) (journal : Journal) :
    (undoMany count journal).logs = journal.logs := by
  induction count generalizing journal with
  | zero => rfl
  | succ count ih =>
    cases newest : journal.changes.back? with
    | none => rw [undoMany_of_empty newest]
    | some change => rw [undoMany_of_back? newest, ih, logs_undo]

@[simp] theorem size_changes_undoMany (count : Nat) (journal : Journal) :
    (undoMany count journal).changes.size = journal.changes.size - count := by
  induction count generalizing journal with
  | zero => rfl
  | succ count ih =>
    cases newest : journal.changes.back? with
    | none =>
      have empty : journal.changes = #[] := Array.back?_eq_none_iff.mp newest
      rw [undoMany_of_empty newest, empty]
      simp
    | some change =>
      rw [undoMany_of_back? newest, ih, changes_undo, Array.size_pop]
      omega

theorem undoMany_add (first second : Nat) (journal : Journal) :
    undoMany (first + second) journal = undoMany second (undoMany first journal) := by
  induction first generalizing journal with
  | zero => rw [Nat.zero_add, undoMany]
  | succ first ih =>
    rw [Nat.succ_add]
    cases newest : journal.changes.back? with
    | none => rw [undoMany_of_empty newest, undoMany_of_empty newest, undoMany_of_empty newest]
    | some change => rw [undoMany_of_back? newest, undoMany_of_back? newest, ih]

theorem undoMany_withLogs (count : Nat) (journal : Journal) (logs : Array Log) :
    undoMany count { journal with logs } = { undoMany count journal with logs } := by
  induction count generalizing journal with
  | zero => rfl
  | succ count ih =>
    cases newest : journal.changes.back? with
    | none =>
      have unchanged : ({ journal with logs } : Journal).changes.back? = none := newest
      rw [undoMany_of_empty newest, undoMany_of_empty unchanged]
    | some change =>
      have unchanged : ({ journal with logs } : Journal).changes.back? = some change := newest
      rw [undoMany_of_back? newest, undoMany_of_back? unchanged, ← ih, ← undo_withLogs]

/-- Undoing what is newer leads from the later journal to the earlier one, but for newer logs. -/
structure Extends (earlier later : Journal) : Prop where
  longer : earlier.changes.size ≤ later.changes.size
  undone : undoMany (later.changes.size - earlier.changes.size) later =
    { earlier with logs := later.logs }
  logged : earlier.logs.toList <+: later.logs.toList

namespace Extends

variable {earlier later : Journal}

theorem refl (journal : Journal) : Extends journal journal where
  longer := Nat.le_refl _
  undone := by rw [Nat.sub_self]; rfl
  logged := List.prefix_refl _

theorem trans {middle : Journal} (first : Extends earlier middle) (second : Extends middle later) :
    Extends earlier later where
  longer := Nat.le_trans first.longer second.longer
  undone := by
    have steps : later.changes.size - earlier.changes.size =
        (later.changes.size - middle.changes.size) +
          (middle.changes.size - earlier.changes.size) := by
      have := first.longer
      have := second.longer
      omega
    rw [steps, undoMany_add, second.undone, undoMany_withLogs, first.undone]
  logged := first.logged.trans second.logged

/-- Going back to the earlier journal's checkpoint gives the earlier journal. -/
theorem revert_checkpoint (extension : Extends earlier later) :
    later.revert earlier.checkpoint = earlier := by
  have logs : later.logs.shrink earlier.logs.size = earlier.logs := by
    apply Array.toList_inj.mp
    rw [Array.toList_shrink]
    exact (List.prefix_iff_eq_take.mp extension.logged).symm
  rw [revert, checkpoint, extension.undone]
  simp only [logs]

theorem revert (extension : Extends earlier later) {checkpoint : Checkpoint}
    (changes : earlier.changes.size ≤ checkpoint.changes)
    (logs : earlier.logs.size ≤ checkpoint.logs) :
    Extends earlier (later.revert checkpoint) where
  longer := by
    have := extension.longer
    simp only [Journal.revert, size_changes_undoMany]
    omega
  undone := by
    have longer := extension.longer
    have steps : later.changes.size - earlier.changes.size =
        (later.changes.size - checkpoint.changes) +
          (later.changes.size - (later.changes.size - checkpoint.changes) -
            earlier.changes.size) := by omega
    have undone := extension.undone
    rw [steps, undoMany_add] at undone
    simp only [Journal.revert, size_changes_undoMany, undoMany_withLogs, undone]
  logged := by
    simp only [Journal.revert, logs_undoMany, Array.toList_shrink]
    refine List.prefix_take_iff.mpr ⟨extension.logged, ?_⟩
    simpa using logs

theorem record {journal : Journal} {change : Change} (changes : later.changes = journal.changes)
    (logs : later.logs = journal.logs) (undoes : later.undo change = journal) :
    Extends journal (later.record change) where
  longer := by simp [Journal.record, changes]
  undone := by
    have newest : (later.record change).changes.back? = some change := Array.back?_push
    have one : (later.record change).changes.size - journal.changes.size = 1 := by
      simp [Journal.record, changes]
    have popped : { later.record change with changes := (later.record change).changes.pop } =
        later := by simp [Journal.record]
    rw [one, undoMany_of_back? newest, popped, undoes, undoMany]
    simp [Journal.record, logs]
  logged := by simp [Journal.record, logs]

end Extends

end StateTransition.Evm.Journal
