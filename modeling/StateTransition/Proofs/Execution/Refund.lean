import StateTransition.Proofs.Execution.Identity
import StateTransition.Proofs.FrameStack.Refund

/-!
The refund counter of a transaction. It is never negative, and where storage is metered by net
changes it holds the refund of every slot that is cleared. It stays within its 64 bits: an instruction
that would take it out of them is the last one of the run.
-/

namespace StateTransition.Evm

open FrameStack

variable {rules : Rules} {world : World} {environment : Environment} {tx : Transaction}
  {accepted : Accepted} {charged here : Journal} {attempt : Attempt}

/-- The refund counter is not negative and, where storage is metered by net changes, holds the refund
of every slot that held something in a world and holds nothing now. -/
structure Journal.CoversCleared (rules : Rules) (world : World) (journal : Journal) : Prop where
  initial : journal.initial = world
  nonneg : 0 ≤ journal.refund
  covers : rules.isActive .netSstoreMetering = true →
    (rules.amount .sstoreClearRefund * journal.cleared.length : Int) ≤ journal.refund

theorem Journal.surplus_start (rules : Rules) (world : World) :
    (Journal.start world).surplus rules = 0 := by
  have nothing : (Journal.start world).cleared = [] := by
    rw [cleared, List.filter_eq_nil_iff]
    intro place member
    simpa [Word.isZero, start, slot] using World.mem_storedSlots.mp member
  rw [surplus, nothing]
  simp [start]

theorem Journal.Secures.coversCleared (secures : (Journal.start world).Secures rules here) :
    here.CoversCleared rules world := by
  have kept := secures.surplus
  rw [surplus_start, Journal.surplus, Gas.coverage] at kept
  refine ⟨secures.initial, ?_, ?_⟩
  · have owed := Int.natCast_nonneg
      ((if rules.isActive .netSstoreMetering then rules.amount .sstoreClearRefund else 0) *
        here.cleared.length)
    omega
  · intro metered
    rw [if_pos metered] at kept
    omega

theorem secures_prepare (charges : charge world tx accepted = .ok charged) :
    (Journal.start world).Secures rules (prepare rules environment tx accepted charged) := by
  rw [(debit_of_charge charges).2]
  exact ((Journal.secures_setBalance _ _ _).trans (Journal.secures_bumpNonce _ _)).trans
    (.of_warms (Journal.warms_prewarm _ rules environment tx accepted.sender _))

theorem refund_prepare (charges : charge world tx accepted = .ok charged) :
    (prepare rules environment tx accepted charged).refund = 0 := by
  have debited := (debit_of_charge charges).2
  rw [prepare, (Journal.warms_prewarm _ rules environment tx accepted.sender _).refund,
    (Journal.sameRecords_bumpNonce _ _).refund, debited]
  exact (Journal.sameRecords_setBalance _ _ _).refund

theorem refundFits_prepare (charges : charge world tx accepted = .ok charged) :
    (prepare rules environment tx accepted charged).refundFits = true := by
  apply Journal.refundFits_of_natAbs
  rw [refund_prepare charges]
  decide

theorem grounds_prepare (fair : Gas.FairRefunds rules)
    (charges : charge world tx accepted = .ok charged)
    (established : ∀ address account, world.get? address = some account → account.storage ≠ ∅ →
      account.Established)
    (calls : ∀ {request}, attempt = .call request → request.address = request.codeAddress) :
    Grounds (accepted.setting rules environment) attempt
      (prepare rules environment tx accepted charged) := by
  have begun : (Journal.start world).Secures rules
      (prepare rules environment tx accepted charged) := secures_prepare charges
  have held {address : Address} {account : Account}
      (storing : (prepare rules environment tx accepted charged).Storing address account) :
      world.get? address = some account := by
    have there := storing.held
    rw [begun.initial] at there
    exact there
  refine ⟨fair, ?_, ?_, calls⟩
  · intro address account storing
    exact established address account (held storing) storing.stores
  · intro address account storing
    have start : (Journal.start world).Retains address account :=
      ⟨⟨account, held storing, .refl account⟩, rfl⟩
    have upholds : Journal.Upholds address account (.start world)
        (prepare rules environment tx accepted charged) := upholds_prepare charges
    exact .of_retains (upholds.retains start) (upholds.destructed start)

theorem fairRefunds_mainnet (fork : Fork) : Gas.FairRefunds (Mainnet.rules fork) where
  signed_eq param := by
    have small := Mainnet.amount_lt fork param
    have bound : UInt64.size = 18446744073709551616 := rfl
    rw [Gas.signed, if_pos (by omega)]
  set := (Mainnet.sstoreNoop_le fork).1
  reset := (Mainnet.sstoreNoop_le fork).2

theorem amount_le_mainnet (fork : Fork) (param : Param) :
    (Mainnet.rules fork).amount param ≤ 65535 :=
  Nat.le_of_lt_succ (Mainnet.amount_lt fork param)

/-- An instruction moves the counter by no more than two amounts, and gas pays for few enough of
them. -/
theorem refundFits_of_moderate (fair : Gas.FairRefunds rules)
    (small : ∀ param, rules.amount param ≤ 65535) (metered : rules.Metered)
    (charges : charge world tx accepted = .ok charged) (moderate : tx.gasLimit.toNat < 2 ^ 45)
    {stack : FrameStack} {openings : List Opened} {machine : Machine} {action : Option Action}
    (underway : Underway (accepted.setting rules environment)
      (.ofTransaction tx accepted.sender (tx.gasLimit.toNat - accepted.intrinsic))
      (prepare rules environment tx accepted charged) stack openings)
    (step : stack.machine.step (accepted.setting rules environment) = (action, machine)) :
    machine.journal.refundFits = true := by
  apply underway.refundFits_of_step fair small metered _ (refund_prepare charges) step
  rw [Attempt.gas_ofTransaction]
  omega

/-- With a gas limit below two to the 45 no execution is stopped by its refund counter, whatever the
world holds. -/
theorem le_gasLimit_of_refundOverflows (fork : Fork) {limits : Limits} {signed : SignedTransaction}
    (overflows : RefundOverflows (Mainnet.rules fork) limits world environment signed) :
    2 ^ 45 ≤ signed.tx.gasLimit.toNat := by
  obtain ⟨accepted, charged, ticks, -, -, charges, runs⟩ := overflows
  obtain ⟨last, later, after, underway, step⟩ := overflow_of_runEntry runs
  by_contra below
  have fits := refundFits_of_moderate (fairRefunds_mainnet fork) (amount_le_mainnet fork)
    (Mainnet.metered fork) charges (Nat.lt_of_not_le below) underway step
  exact Machine.ne_overflow_of_refundFits step fits rfl

/-- At every fork of the main network the refund counter is never negative, and where storage is
metered by net changes it is at least the refund for clearing a slot times the number of slots that
held something before the transaction and hold nothing now. So it is after every instruction, in
every journal a frame is entered with or leaves behind, failures included, and at the end, from
every world in which accounts that store something have a nonce or code. All these counters are kept
in 64 bits; where an instruction takes the counter out of them, the run stops on the overflow, for
which a gas limit below two to the 45 is not enough. -/
theorem refund_covers_cleared_slots (fork : Fork) (world : World) (environment : Environment)
    (tx : Transaction) (accepted : Accepted) (charged : Journal)
    (charges : charge world tx accepted = .ok charged)
    (established : ∀ address account, world.get? address = some account → account.storage ≠ ∅ →
      account.Established) :
    let rules := Mainnet.rules fork
    let setting := accepted.setting rules environment
    let attempt := Attempt.ofTransaction tx accepted.sender
      (tx.gasLimit.toNat - accepted.intrinsic)
    let prepared := prepare rules environment tx accepted charged
    (∀ stack openings, Underway setting attempt prepared stack openings →
      (stack.journal.CoversCleared rules world ∧ stack.journal.refundFits = true) ∧
      ∀ action after, stack.machine.step setting = (action, after) →
        after.journal.CoversCleared rules world ∧
          (after.journal.refundFits = true ∨ action = some .overflow) ∧
          (tx.gasLimit.toNat < 2 ^ 45 → action ≠ some .overflow)) ∧
    (∀ opened remaining result left next,
      Ends setting attempt prepared opened remaining result left next →
      left.CoversCleared rules world ∧ left.refundFits = true) ∧
    ∀ limits completion,
      runTransaction rules limits environment tx accepted charged =
          some (.finished completion) →
      completion.journal.CoversCleared rules world ∧ completion.journal.refundFits = true := by
  have fair := fairRefunds_mainnet fork
  have small := amount_le_mainnet fork
  have metered := Mainnet.metered fork
  generalize Mainnet.rules fork = rules at fair small metered ⊢
  intro rules' setting attempt prepared
  have start : (Journal.start world).Secures rules prepared := secures_prepare charges
  have grounds : Grounds setting attempt prepared :=
    grounds_prepare fair charges established ofTransaction_call
  have range := runInvariant_refundFits setting
  have fits : prepared.refundFits = true := refundFits_prepare charges
  have ended {opened : Opened} {remaining : Nat} {result : FrameResult} {left : Journal}
      {next : Progress} (ends : Ends setting attempt prepared opened remaining result left next) :
      left.CoversCleared rules world ∧ left.refundFits = true :=
    ⟨(start.trans (ends.secures grounds)).coversCleared, ends.holds_left range fits⟩
  refine ⟨?_, ?_, ?_⟩
  · intro stack openings underway
    have here := start.trans (underway.secures grounds)
    have within := (underway.holdsAlong range fits).1
    refine ⟨⟨here.coversCleared, within⟩, ?_⟩
    intro action after step
    refine ⟨(here.trans ((Machine.effects_of_step step).secures fair)).coversCleared, ?_, ?_⟩
    · by_cases stops : action = some .overflow
      · exact .inr stops
      · exact .inl (range.step step stops within)
    · intro moderate
      exact Machine.ne_overflow_of_refundFits step
        (refundFits_of_moderate fair small metered charges moderate underway step)
  · intro opened remaining result left next ends
    exact ended ends
  · intro limits completion runs
    obtain ⟨remaining, ends⟩ := ends_of_runEntry runs
    exact ended ends

/-- A contract clears two slots and fills the first of them again. -/
def refillingWorld : World :=
  .ofList
    [(⟨0x2000#160⟩,
      ({ code :=
          [0x60, 0x00, 0x60, 0x00, 0x55, 0x60, 0x00, 0x60, 0x01, 0x55, 0x60, 0x05, 0x60, 0x00,
           0x55] } : Account).setSlots [(0#256, 7#256), (1#256, 7#256)]),
     (⟨0x7e5f4552091a69125d5dfcb7b8c2659029395bdf#160⟩, { balance := 1000000#256 })]

theorem refund_covers_cleared_slots_refilling :
    let accepted : Accepted := ⟨⟨0x7e5f4552091a69125d5dfcb7b8c2659029395bdf#160⟩, 21000, 10#256⟩
    let attempt := Attempt.ofTransaction generousCall.tx accepted.sender
      (generousCall.tx.gasLimit.toNat - accepted.intrinsic)
    (∀ address account, refillingWorld.get? address = some account → account.storage ≠ ∅ →
      account.Established) ∧
    ∃ charged, charge refillingWorld generousCall.tx accepted = .ok charged ∧
      ∃ stack openings, Underway (accepted.setting (Mainnet.rules .london) {}) attempt
        (prepare (Mainnet.rules .london) {} generousCall.tx accepted charged) stack openings ∧
      stack.journal.cleared = [(⟨0x2000#160⟩, 1#256)] ∧ stack.journal.refund = 4800 ∧
      stack.journal.CoversCleared (Mainnet.rules .london) refillingWorld := by
  intro accepted attempt
  have established : ∀ address account, refillingWorld.get? address = some account →
      account.storage ≠ ∅ → account.Established := by
    have listed : ∀ entry ∈ refillingWorld.accounts.toList,
        entry.2.storage = ∅ ∨ entry.2.code ≠ [] := by decide
    intro address account held stores
    rcases listed _ ((SortedMap.mem_toList_iff _ address account).mpr held) with nothing | coded
    · exact absurd nothing stores
    · exact .inr coded
  have charges : charge refillingWorld generousCall.tx accepted =
      .ok ((Journal.start refillingWorld).debit accepted.sender 1000000#256) := by decide
  refine ⟨established, _, charges, ?_⟩
  have seen : (reach (accepted.setting (Mainnet.rules .london) {}) attempt
      (prepare (Mainnet.rules .london) {} generousCall.tx accepted
        ((Journal.start refillingWorld).debit accepted.sender 1000000#256)) 9).map
      (fun reached => (reached.1.journal.cleared, reached.1.journal.refund)) =
      some ([(⟨0x2000#160⟩, 1#256)], 4800) := by
    rw [Mainnet.rules_eq_readOff]
    decide +kernel
  obtain ⟨⟨stack, openings⟩, reaches, counted⟩ := Option.map_eq_some_iff.mp seen
  obtain ⟨cleared, refund⟩ := Prod.mk.inj counted
  have underway := underway_of_reach reaches
  obtain ⟨covers, _⟩ := refund_covers_cleared_slots .london refillingWorld {} generousCall.tx
    accepted _ charges established
  exact ⟨stack, openings, underway, cleared, refund, (covers stack openings underway).1.1⟩

end StateTransition.Evm
