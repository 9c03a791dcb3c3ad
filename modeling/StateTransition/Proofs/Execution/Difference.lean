import StateTransition.Evm.Execution
import StateTransition.Proofs.World.Difference

namespace StateTransition.Evm

/-- The result says how its world differs from the one it started on. -/
def ExecutionResult.DiffersFrom (result : ExecutionResult) (world : World) : Prop :=
  result.diff = world.diff result.post

variable (rules : Rules) (limits : Limits) (world : World) (environment : Environment)

theorem ExecutionResult.differsFrom_unchanged (outcome : Outcome) (error : ExecutionError)
    (aborted : Bool) : (unchanged world outcome error aborted).DiffersFrom world :=
  (World.diff_self world).symm

theorem differsFrom_transact (tx : Transaction) (accepted : Accepted) :
    (transact rules limits world environment tx accepted).DiffersFrom world := by
  rw [transact]
  cases charge world tx accepted with
  | error cause => cases cause <;> exact ExecutionResult.differsFrom_unchanged world _ _ _
  | ok charged =>
    simp only
    cases runTransaction rules limits environment tx accepted charged with
    | none => exact ExecutionResult.differsFrom_unchanged world _ _ _
    | some ending =>
      cases ending with
      | finished completion => rfl
      | overflowed ticks => exact ExecutionResult.differsFrom_unchanged world _ _ _

theorem differsFrom_execute (signed : SignedTransaction) :
    (execute rules limits world environment signed).DiffersFrom world := by
  rw [execute]
  cases validate rules world environment signed with
  | error reason => exact ExecutionResult.differsFrom_unchanged world _ _ _
  | ok accepted =>
    simp only
    cases limits.gasCeiling with
    | none => exact differsFrom_transact rules limits world environment signed.tx accepted
    | some ceiling =>
      by_cases above : ceiling < signed.tx.gasLimit
      · simp only [if_pos above]
        exact ExecutionResult.differsFrom_unchanged world _ _ _
      · simp only [if_neg above]
        exact differsFrom_transact rules limits world environment signed.tx accepted

/-- The difference of two worlds lists an address exactly if they disagree there, with what each of
them holds; it is empty exactly if they are equal. It is enough to get from each to the other, and
taken the other way round it lists the same addresses with the two sides exchanged. Every execution,
be it rejected or abandoned, reports the difference of the worlds before and after it. -/
theorem differences_exact :
    (∀ before after : World,
      (∀ (address : Address) (change : AccountChange),
        (before.diff after).get? address = some change ↔
          before.get? address ≠ after.get? address ∧
            change.before = before.get? address ∧ change.after = after.get? address) ∧
      (before.diff after = ∅ ↔ before = after) ∧
      (before.diff after).redo before = after ∧
      (before.diff after).undo after = before ∧
      after.diff before = (before.diff after).mapValues AccountChange.exchange) ∧
    ∀ (rules : Rules) (limits : Limits) (world : World) (environment : Environment)
        (signed : SignedTransaction),
      (execute rules limits world environment signed).diff =
        world.diff (execute rules limits world environment signed).post := by
  refine ⟨fun before after => ⟨?_, ?_, ?_, ?_, ?_⟩, differsFrom_execute⟩
  · intro address change
    exact World.get?_diff_eq_some_iff before after address
  · exact World.diff_eq_empty_iff before after
  · exact World.redo_diff before after
  · exact World.undo_diff before after
  · exact World.diff_comm before after

end StateTransition.Evm
