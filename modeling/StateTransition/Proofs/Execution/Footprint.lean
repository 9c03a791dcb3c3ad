import StateTransition.Proofs.Execution.Identity
import StateTransition.Proofs.Execution.Preparation
import StateTransition.Proofs.Execution.Warmth
import StateTransition.Proofs.FrameStack.Footprint
import StateTransition.Proofs.World.Difference

/-!
The footprint of a transaction: where accesses have a price, every account it changes was accessed,
but for the coinbase, and so was every slot it changes, but for the storage of contracts it creates.
-/

namespace StateTransition.Evm

open FrameStack

/-- The journal in which a call or creation has ended tells what the result can have changed. -/
structure ChangesAccessed (world : World) (coinbase : Address) (result : ExecutionResult)
    (journal : Journal) : Prop where
  accounts : ∀ address, result.diff.contains address = true → address ≠ coinbase →
    journal.isWarm address = true
  slots : ∀ address key before after, world.get? address = some before →
    result.post.get? address = some after → journal.isCreated address = false →
    before.slot key ≠ after.slot key → journal.warmSlots.contains (address, key) = true

variable {fork : Fork} {rules : Rules} {limits : Limits} {world : World} {environment : Environment}
  {signed : SignedTransaction} {tx : Transaction} {accepted : Accepted} {charged : Journal}
  {completion : Completion}

theorem changesWarm_prepare (charges : charge world tx accepted = .ok charged)
    (warm : (prepare rules environment tx accepted charged).isWarm accepted.sender = true) :
    (Journal.start world).ChangesWarm (prepare rules environment tx accepted charged) := by
  constructor
  · exact ⟨nofun, nofun⟩
  · intro address cold
    have different : accepted.sender ≠ address := by
      rintro rfl
      rw [warm] at cold
      cases cold
    refine ⟨?_, ?_, isDestructed_prepare charges address⟩
    · rw [Journal.account?, world_prepare charges, World.get?_update, if_neg different]
      rfl
    · rw [touched_prepare charges]
      rfl
  · intro address made
    cases made
  · intro address key _ _
    rw [Journal.slot, world_prepare charges]
    exact World.slot_update rfl address

theorem accessed_ofTransaction {journal : Journal} {sender : Address} {gas : Nat}
    (pays : journal.isWarm sender = true)
    (called : ∀ recipient, tx.recipient = some recipient → journal.isWarm recipient = true) :
    (Attempt.ofTransaction tx sender gas).Accessed journal := by
  rw [Attempt.ofTransaction]
  split
  · rename_i recipient calls
    exact ⟨called recipient calls, fun _ => pays⟩
  · exact pays

theorem slot_settled (setting : Setting) (tx : Transaction) (completion : Completion)
    (address : Address) (key : Word) :
    (completion.settled setting tx).slot address key = completion.journal.slot address key := by
  have paid (journal : Journal) (other : Address) (amount : Word) :
      (journal.addBalance other amount).slot address key = journal.slot address key := by
    rw [Journal.slot, Journal.addBalance, Journal.world_setBalance]
    exact World.slot_update rfl address
  rw [Completion.settled, Journal.slot, Journal.world_touch]
  exact (paid _ _ _).trans (paid _ _ _)

theorem sameAt_settled (setting : Setting) (tx : Transaction) (completion : Completion)
    {address : Address}
    (sender : setting.origin ≠ address) (coinbase : setting.environment.coinbase ≠ address) :
    Journal.SameAt address completion.journal (completion.settled setting tx) := by
  have repaid (amount : Word) : Journal.SameAt address completion.journal
      (completion.journal.addBalance setting.origin amount) :=
    Journal.sameAt_setBalance _ _ sender
  have paid (start : Journal) (amount : Word) : Journal.SameAt address start
      (start.addBalance setting.environment.coinbase amount) :=
    Journal.sameAt_setBalance _ _ coinbase
  exact ((repaid _).trans (paid _ _)).trans (Journal.sameAt_touch _ coinbase)

theorem get?_post_of_sameAt {setting : Setting} {address : Address}
    (same : Journal.SameAt address (.start world) (completion.settled setting tx)) :
    (settleFees setting world tx completion).post.get? address = world.get? address := by
  have held : (completion.settled setting tx).account? address = world.get? address := same.account
  have untouched : (completion.settled setting tx).touched.contains address = false := same.touched
  have spared : (completion.settled setting tx).isDestructed address = false := same.destructed
  rw [post_settleFees_eq_finish, Journal.get?_finish, held, untouched, spared]
  simp

theorem account?_of_get?_post {setting : Setting} {address : Address} {account : Account}
    (left : (settleFees setting world tx completion).post.get? address = some account) :
    (completion.settled setting tx).world.get? address = some account := by
  rw [post_settleFees_eq_finish, Journal.get?_finish] at left
  split at left
  · cases left
  · exact left

theorem Completes.changesWarm
    (completes : Completes rules limits world environment signed accepted charged completion)
    (priced : rules.PricesAccesses)
    (early : rules.isActive .warmCoinbase = decide (Fork.shanghai ≤ fork)) :
    (Journal.start world).ChangesWarm completion.journal ∧
      completion.journal.isWarm accepted.sender = true := by
  have warm {access : Access}
      (prewarmed : Prewarmed fork environment signed.tx accepted.sender access) :
      access.isWarm (prepare rules environment signed.tx accepted charged) = true :=
    prewarmed.isWarm_prepare priced.accounts early charged
  have pays : (prepare rules environment signed.tx accepted charged).isWarm accepted.sender = true :=
    warm .sender
  have accessed (gas : Nat) : (Attempt.ofTransaction signed.tx accepted.sender gas).Accessed
      (prepare rules environment signed.tx accepted charged) :=
    accessed_ofTransaction pays fun recipient calls => warm (.recipient calls)
  obtain ⟨remaining, ends⟩ := completes.ends
  have ran := ends.changesWarm priced (accessed _)
  exact ⟨(changesWarm_prepare completes.charges pays).trans ran, ran.stays.accounts _ pays⟩

theorem Completes.changesAccessed
    (completes : Completes rules limits world environment signed accepted charged completion)
    (priced : rules.PricesAccesses)
    (early : rules.isActive .warmCoinbase = decide (Fork.shanghai ≤ fork)) :
    ChangesAccessed world environment.coinbase (execute rules limits world environment signed)
      completion.journal := by
  obtain ⟨changes, pays⟩ := completes.changesWarm priced early
  rw [completes.settles]
  constructor
  · intro address listed different
    rw [diff_settleFees, World.contains_diff] at listed
    cases warm : completion.journal.isWarm address with
    | true => rfl
    | false =>
      have other : accepted.sender ≠ address := by
        rintro rfl
        rw [pays] at warm
        cases warm
      have settled := sameAt_settled (accepted.setting rules environment) signed.tx completion other
        (Ne.symm different)
      have same := get?_post_of_sameAt ((changes.cold address warm).trans settled)
      exact absurd same.symm listed
  · intro address key before after there left old differs
    cases warm : completion.journal.warmSlots.contains (address, key) with
    | true => rfl
    | false =>
      have settled := slot_settled (accepted.setting rules environment) signed.tx completion address
        key
      have final := account?_of_get?_post left
      have first : (Journal.start world).slot address key = before.slot key := by
        rw [Journal.slot, Journal.start, World.slot, World.account_of_get? there]
      have last : (completion.settled (accepted.setting rules environment) signed.tx).slot address
          key = after.slot key := by
        rw [Journal.slot, World.slot, World.account_of_get? final]
      rw [← first, ← last, settled, changes.slot address key old warm] at differs
      exact absurd rfl differs

/-- From Berlin on, whatever a transaction does: when its call or creation has ended, every account
the result changes is warm, but for the coinbase, and so is every slot in which an account that was
there and is not new differs afterwards. -/
theorem changes_were_accessed (fork : Fork) (berlin : Fork.berlin ≤ fork) (limits : Limits)
    (world : World) (environment : Environment) (signed : SignedTransaction)
    (completed :
      (execute (Mainnet.rules fork) limits world environment signed).isCompleted = true) :
    ∃ accepted charged completion,
      Completes (Mainnet.rules fork) limits world environment signed accepted charged completion ∧
      ChangesAccessed world environment.coinbase
        (execute (Mainnet.rules fork) limits world environment signed) completion.journal := by
  have priced : (Mainnet.rules fork).PricesAccesses := pricesAccesses_mainnet berlin
  have early := Mainnet.isActive_warmCoinbase fork
  obtain ⟨accepted, charged, completion, completes⟩ := completes_of_isCompleted completed
  exact ⟨accepted, charged, completion, completes, completes.changesAccessed priced early⟩

/-- A contract that writes to a slot and then hands all it has to another account. -/
def writingAccount : Account :=
  { balance := 7#256, code := [0x60, 0x01, 0x60, 0x00, 0x55, 0x61, 0x30, 0x00, 0xff] }

def writingWorld : World :=
  .ofList
    [(⟨0x2000#160⟩, writingAccount),
     (⟨0x7e5f4552091a69125d5dfcb7b8c2659029395bdf#160⟩, { balance := 1000000#256 })]

theorem changes_were_accessed_writing :
    Fork.berlin ≤ Fork.cancun ∧
    (execute (Mainnet.rules .cancun) {} writingWorld {} generousCall).isCompleted = true ∧
    ∃ accepted charged completion,
      Completes (Mainnet.rules .cancun) {} writingWorld {} generousCall accepted charged completion ∧
      ChangesAccessed writingWorld ({} : Environment).coinbase
        (execute (Mainnet.rules .cancun) {} writingWorld {} generousCall) completion.journal ∧
      completion.journal.isWarm ⟨0x3000#160⟩ = true ∧
      completion.journal.warmSlots.contains (⟨0x2000#160⟩, 0#256) = true := by
  have berlin : Fork.berlin ≤ Fork.cancun := by decide
  have run : ((execute (Mainnet.rules .cancun) {} writingWorld {} generousCall).isCompleted,
      (execute (Mainnet.rules .cancun) {} writingWorld {} generousCall).diff.contains ⟨0x3000#160⟩,
      ((execute (Mainnet.rules .cancun) {} writingWorld {} generousCall).post.get?
        ⟨0x2000#160⟩).map (·.slot 0#256)) = (true, true, some 1#256) := by
    rw [Mainnet.rules_eq_readOff, execute, validate, sender_generousCall]
    decide +kernel
  obtain ⟨completed, changed⟩ := Prod.mk.inj run
  obtain ⟨paid, written⟩ := Prod.mk.inj changed
  have held : writingWorld.get? ⟨0x2000#160⟩ = some writingAccount := by decide
  obtain ⟨accepted, charged, completion, completes, accessed⟩ :=
    changes_were_accessed .cancun berlin {} writingWorld {} generousCall completed
  have old : completion.journal.isCreated ⟨0x2000#160⟩ = false :=
    (completes.upheld held (.inr (by decide))).retains.created
  obtain ⟨after, left, stored⟩ := Option.map_eq_some_iff.mp written
  refine ⟨berlin, completed, accepted, charged, completion, completes, accessed,
    accessed.accounts _ paid (by decide), ?_⟩
  apply accessed.slots _ 0#256 writingAccount after held left old
  rw [stored]
  decide

end StateTransition.Evm
