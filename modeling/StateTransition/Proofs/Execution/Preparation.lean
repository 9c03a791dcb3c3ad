import StateTransition.Proofs.Execution.Outcome
import StateTransition.Proofs.Journal.Records

namespace StateTransition.Evm

variable {rules : Rules} {world : World} {environment : Environment} {tx : Transaction}
  {accepted : Accepted} {charged : Journal}

theorem sameRecords_charge (charges : charge world tx accepted = .ok charged) :
    (Journal.start world).SameRecords (charged.bumpNonce accepted.sender) := by
  rw [(debit_of_charge charges).2]
  exact (Journal.sameRecords_setBalance _ _ _).trans (Journal.sameRecords_bumpNonce _ _)

theorem warms_prepare (rules : Rules) (environment : Environment) (tx : Transaction)
    (accepted : Accepted) (charged : Journal) :
    (charged.bumpNonce accepted.sender).Warms (prepare rules environment tx accepted charged) :=
  Journal.warms_prewarm _ rules environment tx accepted.sender _

theorem world_prepare (charges : charge world tx accepted = .ok charged) :
    (prepare rules environment tx accepted charged).world = world.update accepted.sender
      fun account =>
        { account with
          nonce := Journal.nextNonce account.nonce
          balance := account.balance - accepted.gasPrice * Word.ofNat tx.gasLimit.toNat } := by
  rw [(warms_prepare rules environment tx accepted charged).world, (debit_of_charge charges).2,
    Journal.world_bumpNonce, Journal.world_debit, World.update_update]
  rfl

theorem touched_prepare (charges : charge world tx accepted = .ok charged) :
    (prepare rules environment tx accepted charged).touched = ∅ :=
  (warms_prepare rules environment tx accepted charged).touched.trans
    (sameRecords_charge charges).touched

theorem isCreated_prepare (charges : charge world tx accepted = .ok charged) (address : Address) :
    (prepare rules environment tx accepted charged).isCreated address = false := by
  rw [Journal.isCreated, (warms_prepare rules environment tx accepted charged).created,
    (sameRecords_charge charges).created]
  rfl

theorem isDestructed_prepare (charges : charge world tx accepted = .ok charged)
    (address : Address) :
    (prepare rules environment tx accepted charged).isDestructed address = false := by
  rw [Journal.isDestructed, (warms_prepare rules environment tx accepted charged).destructed,
    (sameRecords_charge charges).destructed]
  rfl

theorem account?_prepare_sender (charges : charge world tx accepted = .ok charged) :
    (prepare rules environment tx accepted charged).account? accepted.sender =
      some { world.account accepted.sender with
        nonce := Journal.nextNonce (world.nonce accepted.sender)
        balance := world.balance accepted.sender -
          accepted.gasPrice * Word.ofNat tx.gasLimit.toNat } := by
  rw [Journal.account?, world_prepare charges, World.get?_update, if_pos rfl]
  rfl

end StateTransition.Evm
