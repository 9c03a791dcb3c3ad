import StateTransition.Proofs.Execution.Preparation
import StateTransition.Proofs.Fork.Mainnet
import StateTransition.Proofs.FrameStack.Rebase
import StateTransition.Proofs.SortedMap

/-!
Access lists as sets. What a transaction warms before it runs depends on the accounts and slots its
access list names, and on nothing else but the changes that are recorded; these no run sees.
-/

namespace StateTransition

def AccessListItem.slots (item : AccessListItem) : List (Address × Hash256) :=
  item.storageKeys.map fun key => (item.address, key)

/-- Access lists that name the same accounts and the same slots, in any order, in any number of
items and any number of times. -/
structure SameAccess (left right : List AccessListItem) : Prop where
  accounts : ∀ address,
    address ∈ left.map AccessListItem.address ↔ address ∈ right.map AccessListItem.address
  slots : ∀ slot, slot ∈ left.flatMap AccessListItem.slots ↔ slot ∈ right.flatMap AccessListItem.slots

def TransactionKind.withAccessList (items : List AccessListItem) : TransactionKind → TransactionKind
  | .legacy gasPrice chainId => .legacy gasPrice chainId
  | .accessList chainId gasPrice _ => .accessList chainId gasPrice items
  | .dynamicFee chainId maxPriorityFee maxFee _ => .dynamicFee chainId maxPriorityFee maxFee items

def Transaction.withAccessList (tx : Transaction) (items : List AccessListItem) : Transaction :=
  { tx with kind := tx.kind.withAccessList items }

namespace Evm

namespace Journal

variable {α : Type} (journal : Journal) (address : Address)

def warmed (accounts : List Address) (slots : List SlotKey) : Journal :=
  { journal.settled with
    warmAccounts := accounts.foldl SortedSet.add journal.warmAccounts
    warmSlots := slots.foldl SortedSet.add journal.warmSlots }

theorem warmed_settled (accounts : List Address) (slots : List SlotKey) :
    journal.settled.warmed accounts slots = journal.warmed accounts slots := rfl

theorem warmed_warmed (accounts accounts' : List Address) (slots slots' : List SlotKey) :
    (journal.warmed accounts slots).warmed accounts' slots' =
      journal.warmed (accounts ++ accounts') (slots ++ slots') := by
  simp only [warmed, settled, List.foldl_append]

theorem warmed_congr {accounts accounts' : List Address} {slots slots' : List SlotKey}
    (sameAccounts : ∀ address, address ∈ accounts ↔ address ∈ accounts')
    (sameSlots : ∀ slot, slot ∈ slots ↔ slot ∈ slots') :
    journal.warmed accounts slots = journal.warmed accounts' slots' := by
  rw [warmed, warmed, SortedSet.foldl_add_congr _ sameAccounts,
    SortedSet.foldl_add_congr _ sameSlots]

theorem settled_warmAccount :
    (journal.warmAccount address).2.settled = journal.warmed [address] [] := by
  rw [warmAccount]
  split
  · rename_i warm
    rw [warmed, List.foldl_cons, SortedSet.add_of_contains warm]
    rfl
  · rfl

theorem settled_warmSlot (key : Word) :
    (journal.warmSlot address key).2.settled = journal.warmed [] [(address, key)] := by
  rw [warmSlot]
  split
  · rename_i warm
    rw [warmed, List.foldl_cons, SortedSet.add_of_contains warm]
    rfl
  · rfl

theorem settled_foldl {write : Journal → α → Journal} (accounts : α → List Address)
    (slots : α → List SlotKey)
    (settles : ∀ journal item, (write journal item).settled =
      journal.warmed (accounts item) (slots item)) (items : List α) :
    (items.foldl write journal).settled =
      journal.warmed (items.flatMap accounts) (items.flatMap slots) := by
  induction items generalizing journal with
  | nil => rfl
  | cons item rest ih =>
    rw [List.foldl_cons, ih, ← warmed_settled, settles, warmed_warmed, List.flatMap_cons,
      List.flatMap_cons]

theorem settled_warmItem (item : AccessListItem) :
    (warmItem journal item).settled = journal.warmed [item.address]
      (item.slots.map fun slot => (slot.1, slot.2.toWord)) := by
  have keys := settled_foldl (journal.warmAccount item.address).2 (fun _ => [])
    (fun key => [(item.address, key.toWord)])
    (fun start key => settled_warmSlot start item.address key.toWord) item.storageKeys
  rw [warmItem, keys, ← warmed_settled, settled_warmAccount, warmed_warmed]
  apply warmed_congr
  · simp
  · simp [AccessListItem.slots, eq_comm]

theorem settled_warmItems {left right : List AccessListItem} (same : SameAccess left right) :
    (left.foldl warmItem journal).settled = (right.foldl warmItem journal).settled := by
  have warms := settled_foldl journal (fun item : AccessListItem => [item.address])
    (fun item => item.slots.map fun slot => (slot.1, slot.2.toWord)) settled_warmItem
  rw [warms, warms]
  apply warmed_congr
  · intro address
    have named := same.accounts address
    simpa [eq_comm] using named
  · intro slot
    rw [← List.map_flatMap, ← List.map_flatMap, List.mem_map, List.mem_map]
    simp only [same.slots]

end Journal

variable {rules : Rules} {environment : Environment} {tx : Transaction} {accepted : Accepted}

theorem settled_prewarm (sender target : Address) (journal : Journal) {items : List AccessListItem}
    (same : SameAccess tx.accessList (tx.withAccessList items).accessList) :
    (prewarm rules environment tx sender target journal).settled =
      (prewarm rules environment (tx.withAccessList items) sender target journal).settled := by
  simp only [prewarm]
  have listed (known : Journal) :
      (tx.accessList.foldl warmItem known).settled =
      ((tx.withAccessList items).accessList.foldl warmItem known).settled :=
    known.settled_warmItems same
  split
  · split
    · rw [Journal.settled_warmAccount, Journal.settled_warmAccount, ← Journal.warmed_settled, listed]
      rfl
    · rfl
  · split
    · exact listed _
    · rfl

def Attempt.run (setting : Setting) (steps : Nat) (attempt : Attempt) (journal : Journal) :
    Option Ending :=
  let (entry, entered) := attempt.enter setting journal
  runEntry setting steps entry entered

theorem runTransaction_eq_run (limits : Limits) (charged : Journal) :
    runTransaction rules limits environment tx accepted charged =
      (Attempt.ofTransaction tx accepted.sender (tx.gasLimit.toNat - accepted.intrinsic)).run
        (accepted.setting rules environment) limits.steps
        (prepare rules environment tx accepted charged) := rfl

variable (setting : Setting) (steps : Nat) (attempt : Attempt) (world : World)

theorem Attempt.run_onto (earlier : Array Change) (journal : Journal) :
    attempt.run setting steps (journal.onto earlier) =
      (attempt.run setting steps journal).map (.onto earlier) := by
  rw [Attempt.run, Attempt.run, Attempt.enter_onto]
  exact runEntry_onto earlier setting _ steps _

theorem Ending.settle_onto (earlier : Array Change) (ending : Ending) :
    (ending.onto earlier).settle setting world tx = ending.settle setting world tx := by
  cases ending with
  | overflowed ticks => rfl
  | finished completion =>
    simp only [Ending.settle, Ending.onto, settleFees, Completion.onto, Journal.addBalance_onto,
      Journal.touch_onto, Journal.finish_onto]
    rfl

/-- What a transaction comes to does not depend on the changes from before its run. -/
theorem map_settle_run (tx : Transaction) {left right : Journal}
    (same : left.settled = right.settled) :
    (attempt.run setting steps left).map (Ending.settle setting world tx) =
      (attempt.run setting steps right).map (Ending.settle setting world tx) := by
  have forget (journal : Journal) : (attempt.run setting steps journal).map
      (Ending.settle setting world tx) =
      (attempt.run setting steps journal.settled).map (Ending.settle setting world tx) := by
    have below := attempt.run_onto setting steps journal.changes journal.settled
    rw [journal.onto_settled] at below
    rw [below, Option.map_map]
    congr 1
    funext ending
    exact Ending.settle_onto setting world journal.changes ending
  rw [forget left, forget right, same]

/-- Order and multiplicity in an access list make no difference. At any rules, with any limits, in
any world and environment, transactions that differ in their access lists only and name the same
accounts and slots there come to the same result, if they are executed for the same sender at the
same price and intrinsic gas. -/
theorem access_lists_act_as_sets (rules : Rules) (limits : Limits) (world : World)
    (environment : Environment) (accepted : Accepted) {left right : Transaction}
    (differ : left.withAccessList right.accessList = right)
    (same : SameAccess left.accessList right.accessList) :
    transact rules limits world environment left accepted =
      transact rules limits world environment right accepted := by
  rw [← differ] at same ⊢
  generalize right.accessList = items at same ⊢
  have charges : charge world (left.withAccessList items) accepted = charge world left accepted :=
    rfl
  cases taken : charge world left accepted with
  | error cause => cases cause <;> simp only [transact, charges, taken]
  | ok charged =>
    have prepared : (prepare rules environment left accepted charged).settled =
        (prepare rules environment (left.withAccessList items) accepted charged).settled :=
      settled_prewarm _ _ _ same
    have results := map_settle_run (accepted.setting rules environment) limits.steps
      (.ofTransaction left accepted.sender (left.gasLimit.toNat - accepted.intrinsic)) world left
      prepared
    rw [transact_of_charge taken, transact_of_charge (charges.trans taken), runTransaction_eq_run,
      runTransaction_eq_run, results]
    rfl

/-- A contract calls another one, which reads a slot and fails; then it copies a slot of its own. -/
def copyingWorld : World :=
  .ofList
    [(⟨0x10#160⟩, { balance := 10000000#256 }),
     (⟨0x2000#160⟩,
      { code :=
          [0x60, 0x00, 0x60, 0x00, 0x60, 0x00, 0x60, 0x00, 0x60, 0x00, 0x61, 0x30, 0x00, 0x61, 0xff,
           0xff, 0xf1, 0x60, 0x01, 0x54, 0x60, 0x02, 0x55]
        storage := Slots.empty.set 1#256 5#256 }),
     (⟨0x3000#160⟩, { code := [0x60, 0x07, 0x54, 0xfe] })]

def callOfCopier (items : List AccessListItem) : Transaction where
  nonce := 0
  gasLimit := 200000
  recipient := some ⟨0x2000#160⟩
  value := 0#256
  data := []
  kind := .accessList 1 10#256 items

theorem access_lists_act_as_sets_copier :
    let first : Hash256 := .ofWord 1#256
    let second : Hash256 := .ofWord 2#256
    let left := callOfCopier [⟨⟨0x2000#160⟩, [first, second]⟩, ⟨⟨0x3000#160⟩, []⟩]
    let right := callOfCopier
      [⟨⟨0x3000#160⟩, []⟩, ⟨⟨0x2000#160⟩, [second]⟩, ⟨⟨0x2000#160⟩, [first, first]⟩]
    let accepted : Accepted := ⟨⟨0x10#160⟩, 33900, 10#256⟩
    left.withAccessList right.accessList = right ∧
    SameAccess left.accessList right.accessList ∧
    transact (Mainnet.rules .berlin) {} copyingWorld {} left accepted =
      transact (Mainnet.rules .berlin) {} copyingWorld {} right accepted ∧
    (transact (Mainnet.rules .berlin) {} copyingWorld {} left accepted).outcome = .success ∧
    (transact (Mainnet.rules .berlin) {} copyingWorld {} left accepted).gasUsed = 119662 ∧
    (transact (Mainnet.rules .berlin) {} copyingWorld {} (callOfCopier []) accepted).gasUsed =
      126262 := by
  intro first second left right accepted
  have differ : left.withAccessList right.accessList = right := rfl
  have same : SameAccess left.accessList right.accessList := by
    constructor
    · intro address
      simp only [left, right, callOfCopier, Transaction.accessList, List.map_cons, List.map_nil,
        List.mem_cons]
      grind
    · intro slot
      simp only [left, right, callOfCopier, Transaction.accessList, AccessListItem.slots,
        List.flatMap_cons, List.flatMap_nil, List.map_cons, List.map_nil, List.mem_append,
        List.mem_cons]
      grind
  refine ⟨differ, same, access_lists_act_as_sets _ _ _ _ _ differ same, ?_⟩
  rw [Mainnet.rules_eq_readOff]
  decide +kernel

end Evm

end StateTransition
