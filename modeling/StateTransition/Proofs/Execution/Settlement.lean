import StateTransition.Proofs.Execution.Outcome
import StateTransition.Proofs.Journal.Occupants

namespace StateTransition.Evm

def Completion.settled (setting : Setting) (tx : Transaction) (completion : Completion) : Journal :=
  let bill := GasBill.of setting.rules tx completion
  let repaid := completion.journal.addBalance setting.origin (repayment setting tx bill)
  (repaid.addBalance setting.environment.coinbase (reward setting bill)).touch
    setting.environment.coinbase

variable (setting : Setting) (world : World) (tx : Transaction) (completion : Completion)

theorem post_settleFees_eq_finish : (settleFees setting world tx completion).post =
    ((completion.settled setting tx).finish (setting.rules.isActive .emptyAccountCleanup)).1 := rfl

theorem diff_settleFees : (settleFees setting world tx completion).diff =
    World.diff world (settleFees setting world tx completion).post := rfl

theorem upholds_settled {address : Address} {account : Account} :
    Journal.Upholds address account completion.journal (completion.settled setting tx) :=
  ((Journal.upholds_addBalance _ setting.origin _).trans (Journal.upholds_addBalance _ _ _)).trans
    (Journal.upholds_touch _ _)

theorem sameOccupants_settled :
    completion.journal.SameOccupants (completion.settled setting tx) :=
  ((Journal.sameOccupants_addBalance _ setting.origin _).trans
    (Journal.sameOccupants_addBalance _ _ _)).trans (Journal.sameOccupants_touch _ _)

variable {completion}

theorem get?_post_of_retains {address : Address} {account : Account}
    (retains : completion.journal.Retains address account) (established : account.Established) :
    (settleFees setting world tx completion).post.get? address =
      if completion.journal.isDestructed address then none
      else (completion.settled setting tx).account? address := by
  have upholds : Journal.Upholds address account completion.journal (completion.settled setting tx) :=
    upholds_settled setting tx completion
  obtain ⟨now, held, continues⟩ := (upholds.retains retains).held
  rw [post_settleFees_eq_finish, ← upholds.destructed retains]
  apply Journal.get?_finish_of_full
  intro there same
  rw [held] at same
  cases same
  exact (established.continues continues).isEmpty_eq

end StateTransition.Evm
