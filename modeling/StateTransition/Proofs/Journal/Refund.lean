import Mathlib.Algebra.Ring.Nat
import Mathlib.Data.List.Nodup
import StateTransition.Proofs.Journal.Records

/-!
The refund counter against the slots that a transaction has cleared. Clearing a slot that held
something at the start of the transaction adds to the counter, and filling it again takes no more
than that back. So what the counter holds beyond the refund of all cleared slots, its surplus, never
gets smaller: one slot is written at a time, and the count of cleared slots moves with it.
-/

namespace StateTransition

theorem length_filter_of_differ {α : Type} {items : List α} {item : α} {before after : α → Bool}
    (nodup : items.Nodup) (member : item ∈ items)
    (others : ∀ other ∈ items, other ≠ item → after other = before other) :
    (items.filter after).length + (before item).toNat =
      (items.filter before).length + (after item).toNat := by
  induction items with
  | nil => cases member
  | cons head rest ih =>
    obtain ⟨absent, distinct⟩ := List.nodup_cons.mp nodup
    simp only [List.filter_cons, apply_ite List.length, List.length_cons]
    rcases List.mem_cons.mp member with same | later
    · have unchanged : rest.filter after = rest.filter before := by
        apply List.filter_congr
        intro other below
        refine others other (List.mem_cons_of_mem head below) ?_
        intro equal
        rw [equal, same] at below
        exact absent below
      rw [unchanged, same]
      cases before head <;> cases after head <;> simp
    · have different : head ≠ item := fun equal => absent (equal ▸ later)
      have first := others head List.mem_cons_self different
      have counted := ih distinct later fun other below =>
        others other (List.mem_cons_of_mem head below)
      rw [first]
      split <;> omega

namespace World

variable {world : World} {address : Address} {key : Word}

/-- The slots that hold something. -/
def storedSlots (world : World) : List (Address × Word) :=
  world.accounts.toList.flatMap fun entry =>
    entry.2.storage.toList.map fun slot => (entry.1, slot.1)

theorem mem_storedSlots : (address, key) ∈ world.storedSlots ↔ world.slot address key ≠ 0#256 := by
  constructor
  · intro member
    obtain ⟨⟨owner, account⟩, holds, within⟩ := List.mem_flatMap.mp member
    obtain ⟨⟨place, value⟩, stored, same⟩ := List.mem_map.mp within
    cases same
    have held : world.get? owner = some account :=
      (SortedMap.mem_toList_iff world.accounts owner account).mp holds
    have entry : account.storage.entries.get? place = some value :=
      (SortedMap.mem_toList_iff account.storage.entries place value).mp stored
    intro zero
    rw [World.slot, account_of_get? held, Account.slot] at zero
    rw [Slots.get?_eq, if_pos zero] at entry
    cases entry
  · intro filled
    cases held : world.get? address with
    | none =>
      rw [World.slot, World.account, held] at filled
      exact absurd rfl filled
    | some account =>
      rw [World.slot, account_of_get? held, Account.slot] at filled
      have entry : account.storage.entries.get? key = some (account.storage.get key) := by
        rw [Slots.get?_eq, if_neg filled]
      have holds := (SortedMap.mem_toList_iff world.accounts address account).mpr held
      have stored := (SortedMap.mem_toList_iff account.storage.entries key _).mpr entry
      exact List.mem_flatMap.mpr ⟨_, holds, List.mem_map.mpr ⟨_, stored, rfl⟩⟩

theorem nodup_storedSlots : world.storedSlots.Nodup := by
  have apart {κ ν : Type} [Key κ] (entries : SortedMap κ ν) :
      entries.toList.Pairwise fun first second => first.1 ≠ second.1 := by
    refine entries.sorted.imp ?_
    intro first second less same
    rw [same] at less
    exact Nat.lt_irrefl _ less
  rw [storedSlots, List.nodup_flatMap]
  constructor
  · intro entry _
    rw [List.Nodup, List.pairwise_map]
    refine (apart entry.2.storage.entries).imp ?_
    intro first second different same
    exact different (Prod.mk.inj same).2
  · refine (apart world.accounts).imp ?_
    intro first second different slot left right
    obtain ⟨_, _, fromFirst⟩ := List.mem_map.mp left
    obtain ⟨_, _, fromSecond⟩ := List.mem_map.mp right
    exact different ((Prod.mk.inj (fromFirst.trans fromSecond.symm)).1)

end World

namespace Evm

namespace Gas

/-- What refunds rest on: no amount is so large that it is read as a negative number, and to leave a
slot as it is costs no more than to write to it. -/
structure FairRefunds (rules : Rules) : Prop where
  signed_eq : ∀ param, signed (rules.amount param) = rules.amount param
  set : rules.amount .sstoreNoop ≤ rules.amount .sstoreSet
  reset : rules.amount .sstoreNoop ≤ rules.amount .sstoreReset

/-- Whether a slot held something at the start of the transaction and holds nothing now. -/
def clears (initial now : Word) : Bool := !initial.isZero && now.isZero

/-- What the refund counter holds for each cleared slot. -/
def coverage (rules : Rules) : Nat :=
  if rules.isActive .netSstoreMetering then rules.amount .sstoreClearRefund else 0

variable {rules : Rules} {slot : SlotWrite} {most : Nat}

theorem refund_plainWrite_nonneg (fair : FairRefunds rules) (slot : SlotWrite) :
    0 ≤ (plainWrite rules slot).refund := by
  simp only [plainWrite]
  split
  · rw [fair.signed_eq]
    exact Int.natCast_nonneg _
  · exact Int.le_refl 0

theorem restoringRefund_nonneg (fair : FairRefunds rules) (slot : SlotWrite) :
    0 ≤ restoringRefund rules slot := by
  have set := fair.set
  have reset := fair.reset
  simp only [restoringRefund, fair.signed_eq .sstoreNoop]
  split
  · split
    · rw [fair.signed_eq]
      omega
    · rw [fair.signed_eq]
      omega
  · exact Int.le_refl 0

theorem clearingRefund_eq (fair : FairRefunds rules) (changes : slot.current ≠ slot.new) :
    clearingRefund rules slot + rules.amount .sstoreClearRefund *
        (clears slot.initial slot.current).toNat =
      rules.amount .sstoreClearRefund * (clears slot.initial slot.new).toNat := by
  rw [clearingRefund, fair.signed_eq, clears, clears]
  cases slot.initial.isZero with
  | true => simp
  | false =>
    cases emptied : slot.current.isZero with
    | true =>
      have filled : slot.new.isZero = false := by
        rw [Bool.eq_false_iff]
        intro zero
        simp only [Word.isZero, beq_iff_eq] at emptied zero
        exact changes (emptied.trans zero.symm)
      simp only [filled, Bool.false_eq_true, if_true, if_false, Bool.not_false, Bool.and_true,
        Bool.and_false, Bool.toNat_true, Bool.toNat_false]
      omega
    | false => cases slot.new.isZero <;> simp

theorem le_refund_netWrite (fair : FairRefunds rules) (slot : SlotWrite) :
    (rules.amount .sstoreClearRefund * (clears slot.initial slot.new).toNat : Int) ≤
      (netWrite rules slot).refund +
        rules.amount .sstoreClearRefund * (clears slot.initial slot.current).toNat := by
  rw [netWrite]
  split
  · rename_i same
    rw [same]
    simp
  · rename_i changes
    split
    · -- The slot holds its initial value, so it is not a cleared one yet.
      rename_i clean
      rw [← clean, fair.signed_eq, clears, clears]
      cases slot.initial.isZero with
      | true => simp
      | false => cases slot.new.isZero <;> simp
    · have moved := clearingRefund_eq fair changes
      have restored := restoringRefund_nonneg fair slot
      simp only
      omega

/-- A write gives at least what the slot it clears has to be covered by, and takes back at most what
the slot it fills was covered by. -/
theorem le_refund_write (fair : FairRefunds rules) (slot : SlotWrite) (cold : Bool) :
    (coverage rules * (clears slot.initial slot.new).toNat : Int) ≤
      (write rules slot cold).refund +
        coverage rules * (clears slot.initial slot.current).toNat := by
  have net := le_refund_netWrite fair slot
  have plain := refund_plainWrite_nonneg fair slot
  rw [write, coverage]
  split
  · exact net
  · simpa using plain

theorem natAbs_clearingRefund_le (fair : FairRefunds rules)
    (small : ∀ param, rules.amount param ≤ most) (slot : SlotWrite) :
    (clearingRefund rules slot).natAbs ≤ most := by
  have amount := small .sstoreClearRefund
  rw [clearingRefund, fair.signed_eq]
  split
  · exact Nat.zero_le _
  · split
    · omega
    · split <;> omega

theorem natAbs_restoringRefund_le (fair : FairRefunds rules)
    (small : ∀ param, rules.amount param ≤ most) (slot : SlotWrite) :
    (restoringRefund rules slot).natAbs ≤ most := by
  have set := small .sstoreSet
  have reset := small .sstoreReset
  have noop := small .sstoreNoop
  simp only [restoringRefund, fair.signed_eq .sstoreNoop]
  split
  · split
    · rw [fair.signed_eq]
      omega
    · rw [fair.signed_eq]
      omega
  · exact Nat.zero_le _

/-- A write moves the refund counter by no more than two amounts. -/
theorem natAbs_refund_write_le (fair : FairRefunds rules)
    (small : ∀ param, rules.amount param ≤ most) (slot : SlotWrite) (cold : Bool) :
    (write rules slot cold).refund.natAbs ≤ 2 * most := by
  have amount := small .sstoreClearRefund
  have clearing := natAbs_clearingRefund_le fair small slot
  have restoring := natAbs_restoringRefund_le fair small slot
  simp only [write, netWrite, plainWrite, fair.signed_eq]
  split
  · split
    · exact Nat.zero_le _
    · split
      · split
        · exact Nat.zero_le _
        · simp only
          split <;> omega
      · simp only
        omega
  · split <;> simp <;> omega

end Gas

namespace Journal

variable {journal : Journal} {address : Address} {key value : Word}

/-- The slots that held something when the transaction began and hold nothing now. -/
def cleared (journal : Journal) : List SlotKey :=
  journal.initial.storedSlots.filter fun slot => (journal.slot slot.1 slot.2).isZero

theorem mem_cleared : (address, key) ∈ journal.cleared ↔
    journal.initialSlot address key ≠ 0#256 ∧ journal.slot address key = 0#256 := by
  rw [cleared, List.mem_filter, World.mem_storedSlots, initialSlot, Word.isZero, beq_iff_eq]

theorem nodup_cleared (journal : Journal) : journal.cleared.Nodup :=
  World.nodup_storedSlots.filter _

theorem slot_setSlot (journal : Journal) (address : Address) (key value : Word) (other : SlotKey) :
    (journal.setSlot address key value).slot other.1 other.2 =
      if other = (address, key) then value else journal.slot other.1 other.2 := by
  obtain ⟨owner, place⟩ := other
  rw [slot, world_setSlot, World.slot, World.account_update]
  by_cases here : address = owner
  · rw [if_pos here, Account.slot, Account.setSlot, Slots.get_set]
    by_cases same : key = place
    · rw [if_pos (congrArg Key.rank same), if_pos (by rw [here, same])]
    · rw [if_neg fun ranks => same (Key.rank_injective ranks), if_neg fun equal => same ?_, here]
      · rfl
      · exact (Prod.mk.inj equal).2.symm
  · rw [if_neg here, if_neg fun equal => here ?_]
    · rfl
    · exact (Prod.mk.inj equal).1.symm

theorem length_cleared_setSlot (journal : Journal) (address : Address) (key value : Word) :
    (journal.setSlot address key value).cleared.length +
        (Gas.clears (journal.initialSlot address key) (journal.slot address key)).toNat =
      journal.cleared.length + (Gas.clears (journal.initialSlot address key) value).toNat := by
  have here := slot_setSlot journal address key value (address, key)
  rw [if_pos rfl] at here
  have others (other : SlotKey) (different : other ≠ (address, key)) :
      (journal.setSlot address key value).slot other.1 other.2 = journal.slot other.1 other.2 := by
    rw [slot_setSlot, if_neg different]
  rw [cleared, cleared, (sameRecords_setSlot journal address key value).initial]
  by_cases stored : (address, key) ∈ journal.initial.storedSlots
  · have nonzero : (journal.initialSlot address key).isZero = false := by
      simpa [Word.isZero, initialSlot] using World.mem_storedSlots.mp stored
    have counted := length_filter_of_differ World.nodup_storedSlots stored fun other _ different =>
      congrArg Word.isZero (others other different)
    rw [Gas.clears, Gas.clears, nonzero, Bool.not_false, Bool.true_and, Bool.true_and]
    simp only [here] at counted
    exact counted
  · have zero : (journal.initialSlot address key).isZero = true := by
      simpa [Word.isZero, initialSlot] using mt World.mem_storedSlots.mpr stored
    have unchanged : (journal.initial.storedSlots.filter fun slot =>
        ((journal.setSlot address key value).slot slot.1 slot.2).isZero) =
        journal.initial.storedSlots.filter fun slot => (journal.slot slot.1 slot.2).isZero := by
      apply List.filter_congr
      intro other member
      rw [others other fun same => stored (same ▸ member)]
    rw [unchanged, Gas.clears, Gas.clears, zero]
    rfl

/-- What the counter holds beyond what the cleared slots have to be covered by. -/
def surplus (rules : Rules) (journal : Journal) : Int :=
  journal.refund - Gas.coverage rules * journal.cleared.length

theorem surplus_setSlot (rules : Rules) (journal : Journal) (address : Address)
    (key value : Word) :
    (journal.setSlot address key value).surplus rules + Gas.coverage rules *
        (Gas.clears (journal.initialSlot address key) value).toNat =
      journal.surplus rules + Gas.coverage rules *
        (Gas.clears (journal.initialSlot address key) (journal.slot address key)).toNat := by
  have counted := congrArg (Gas.coverage rules * ·)
    (length_cleared_setSlot journal address key value)
  simp only [Nat.mul_add] at counted
  have counter := (sameRecords_setSlot journal address key value).refund
  rw [surplus, surplus, counter]
  omega

/-- Nothing is taken from the surplus. -/
structure Secures (rules : Rules) (before after : Journal) : Prop where
  initial : after.initial = before.initial
  surplus : before.surplus rules ≤ after.surplus rules

variable {rules : Rules} {before middle after : Journal}

namespace Secures

theorem refl (journal : Journal) : Secures rules journal journal := ⟨rfl, Int.le_refl _⟩

theorem trans (first : Secures rules before middle) (second : Secures rules middle after) :
    Secures rules before after where
  initial := second.initial.trans first.initial
  surplus := Int.le_trans first.surplus second.surplus

theorem of_slots (initial : after.initial = before.initial)
    (slots : ∀ {address key}, before.initialSlot address key ≠ 0#256 →
      after.slot address key = before.slot address key)
    (refund : before.refund ≤ after.refund) : Secures rules before after where
  initial := initial
  surplus := by
    have same : after.cleared = before.cleared := by
      rw [cleared, cleared, initial]
      apply List.filter_congr
      intro slot member
      rw [slots (World.mem_storedSlots.mp member)]
    rw [Journal.surplus, Journal.surplus, same]
    omega

theorem of_world (initial : after.initial = before.initial) (world : after.world = before.world)
    (refund : before.refund ≤ after.refund) : Secures rules before after := by
  apply of_slots initial _ refund
  intro address key _
  rw [slot, world, slot]

theorem of_warms (warms : Warms before after) : Secures rules before after :=
  of_world warms.initial warms.world (Int.le_of_eq warms.refund.symm)

theorem of_update {change : Account → Account} (records : SameRecords before after)
    (world : after.world = before.world.update address change)
    (storage : (change (before.world.account address)).storage =
      (before.world.account address).storage) : Secures rules before after := by
  apply of_slots records.initial _ (Int.le_of_eq records.refund.symm)
  intro other key _
  rw [slot, world]
  apply World.slot_update
  rw [Account.slot, storage]
  rfl

end Secures

section Writes

variable (journal : Journal) (address : Address)

theorem exists_addRefund_eq (amount : Int) : ∃ changes,
    journal.addRefund amount = { journal with refund := journal.refund + amount, changes } := by
  rw [addRefund]
  split
  · rename_i zero
    exact ⟨journal.changes, by rw [zero, Int.add_zero]⟩
  · exact ⟨_, rfl⟩

theorem refund_touch : (journal.touch address).refund = journal.refund := by
  obtain ⟨touched, changes, touches⟩ := exists_touch_eq journal address
  rw [touches]

theorem refund_move (sender recipient : Address) (amount : Word) :
    (journal.move sender recipient amount).refund = journal.refund := by
  rw [move, refund_touch, refund_touch, (sameRecords_addBalance _ _ _).refund, debit,
    (sameRecords_setBalance _ _ _).refund]

theorem refund_createAccount (nonce : UInt64) :
    (journal.createAccount address nonce).refund = journal.refund := by
  obtain ⟨world, created, changes, creates⟩ := exists_createAccount_eq journal address nonce
  rw [creates]

theorem refund_markDestructed : (journal.markDestructed address).2.refund = journal.refund := by
  rw [markDestructed]
  split <;> rfl

theorem refund_closeAccount (rules : Rules) (beneficiary : Address) :
    (Exec.closeAccount rules address beneficiary journal).refund = journal.refund ∨
      (Exec.closeAccount rules address beneficiary journal).refund =
        journal.refund + Gas.signed (rules.amount .selfdestructRefund) := by
  obtain ⟨changes, adds⟩ := exists_addRefund_eq journal
    (Gas.signed (rules.amount .selfdestructRefund))
  have kept (start : Journal) : (start.setBalance address 0#256).refund = start.refund :=
    (sameRecords_setBalance start address 0#256).refund
  have paid (start : Journal) (amount : Word) :
      (start.addBalance beneficiary amount).refund = start.refund :=
    (sameRecords_addBalance start beneficiary amount).refund
  simp only [Exec.closeAccount, apply_ite Journal.refund, refund_markDestructed, refund_touch, kept,
    paid, ite_self, adds]
  split <;> simp

theorem refundFits_of_natAbs {journal : Journal} (near : journal.refund.natAbs < 2 ^ 63) :
    journal.refundFits = true := by
  have least : Int64.minValue.toInt = -9223372036854775808 := by decide
  have greatest : Int64.maxValue.toInt = 9223372036854775807 := by decide
  rw [refundFits, least, greatest, Bool.and_eq_true, decide_eq_true_eq, decide_eq_true_eq]
  omega

theorem refundFits_congr {left right : Journal} (same : left.refund = right.refund) :
    left.refundFits = right.refundFits := by
  rw [refundFits, same, refundFits]

theorem secures_addRefund {amount : Int} (positive : 0 ≤ amount) :
    Secures rules journal (journal.addRefund amount) := by
  obtain ⟨changes, adds⟩ := exists_addRefund_eq journal amount
  rw [adds]
  exact .of_world rfl rfl (Int.le_add_of_nonneg_right positive)

theorem secures_touch : Secures rules journal (journal.touch address) := by
  obtain ⟨touched, changes, touches⟩ := exists_touch_eq journal address
  rw [touches]
  exact .of_world rfl rfl (Int.le_refl _)

theorem secures_ensure : Secures rules journal (journal.ensure address) :=
  .of_update (sameRecords_ensure journal address) (world_ensure journal address) rfl

theorem secures_setBalance (balance : Word) :
    Secures rules journal (journal.setBalance address balance) :=
  .of_update (sameRecords_setBalance journal address balance)
    (world_setBalance journal address balance) rfl

theorem secures_addBalance (amount : Word) :
    Secures rules journal (journal.addBalance address amount) :=
  secures_setBalance journal address _

theorem secures_bumpNonce : Secures rules journal (journal.bumpNonce address) :=
  .of_update (sameRecords_bumpNonce journal address) (world_bumpNonce journal address) rfl

theorem secures_setCode (code : Bytes) : Secures rules journal (journal.setCode address code) :=
  .of_update (sameRecords_setCode journal address code) (world_setCode journal address code) rfl

theorem secures_move (sender recipient : Address) (amount : Word) :
    Secures rules journal (journal.move sender recipient amount) :=
  (((secures_setBalance journal sender _).trans (secures_addBalance _ recipient amount)).trans
    (secures_touch _ sender)).trans (secures_touch _ recipient)

theorem secures_markDestructed : Secures rules journal (journal.markDestructed address).2 := by
  rw [markDestructed]
  split
  · exact .refl journal
  · exact .of_world rfl rfl (Int.le_refl _)

theorem secures_closeAccount (fair : Gas.FairRefunds rules) (beneficiary : Address) :
    Secures rules journal (Exec.closeAccount rules address beneficiary journal) := by
  apply rel_closeAccount .refl .trans
  · intro start
    apply secures_addRefund
    rw [fair.signed_eq]
    exact Int.natCast_nonneg _
  · intro start amount
    exact secures_addBalance start beneficiary amount
  · intro start
    exact secures_setBalance start address 0#256
  · intro start
    exact secures_touch start beneficiary
  · intro start
    exact secures_markDestructed start address

theorem secures_store (fair : Gas.FairRefunds rules) (key value : Word) (cold : Bool) :
    Secures rules journal ((journal.addRefund (Gas.write rules
      ⟨journal.initialSlot address key, journal.slot address key, value⟩ cold).refund).setSlot
        address key value) := by
  have paid := Gas.le_refund_write fair
    ⟨journal.initialSlot address key, journal.slot address key, value⟩ cold
  generalize (Gas.write rules _ cold).refund = refund at paid ⊢
  obtain ⟨changes, adds⟩ := exists_addRefund_eq journal refund
  rw [adds]
  have written := surplus_setSlot rules
    { journal with refund := journal.refund + refund, changes } address key value
  have credited : surplus rules { journal with refund := journal.refund + refund, changes } =
      journal.surplus rules + refund := by
    have same : cleared { journal with refund := journal.refund + refund, changes } =
        journal.cleared := rfl
    simp only [surplus, same]
    omega
  rw [credited] at written
  refine ⟨(sameRecords_setSlot _ address key value).initial, ?_⟩
  simp only [initialSlot, slot] at paid written
  omega

theorem secures_createAccount (nonce : UInt64)
    (blank : ∀ key, journal.initialSlot address key = 0#256) :
    Secures rules journal (journal.createAccount address nonce) := by
  have fresh := world_createAccount journal address nonce
  obtain ⟨world, created, changes, creates⟩ := exists_createAccount_eq journal address nonce
  have slots {other : Address} {key : Word} (filled : journal.initialSlot other key ≠ 0#256) :
      (journal.createAccount address nonce).slot other key = journal.slot other key := by
    have different : address ≠ other := fun same => filled (same ▸ blank key)
    rw [slot, fresh, World.slot, World.account, World.get?_insert, if_neg different]
    rfl
  have counter : (journal.createAccount address nonce).refund = journal.refund := by
    rw [creates]
  have initial : (journal.createAccount address nonce).initial = journal.initial := by
    rw [creates]
  exact .of_slots initial slots (Int.le_of_eq counter.symm)

end Writes

end Journal

end Evm

end StateTransition
