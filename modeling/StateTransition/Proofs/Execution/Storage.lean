import Mathlib.Data.List.Sort
import StateTransition.Evm.Execution
import StateTransition.Proofs.Journal.Session
import StateTransition.Proofs.Scenario.Verification
import StateTransition.Proofs.World.Difference

/-!
Which slots are stored. Whatever is done to accounts, worlds and journals, a slot is stored exactly
if it does not hold zero. Worlds that read the same are therefore equal, and nothing that compares
them tells a slot that holds zero from one that is not there.
-/

namespace StateTransition

theorem Slots.mem_toList_iff {κ : Type} [Key κ] (slots : Slots κ) (key : κ) (value : Word) :
    (key, value) ∈ slots.toList ↔ value ≠ 0#256 ∧ slots.get key = value := by
  rw [toList, SortedMap.mem_toList_iff, get?_eq]
  by_cases zero : slots.get key = 0#256
  · rw [if_pos zero, zero]
    exact ⟨nofun, fun ⟨nonzero, same⟩ => absurd same.symm nonzero⟩
  · rw [if_neg zero, Option.some.injEq]
    constructor
    · rintro rfl
      exact ⟨zero, rfl⟩
    · exact And.right

namespace Account

/-- What can be done to an account at hand. -/
inductive Edit where
  | setBalance (balance : Word)
  | setNonce (nonce : UInt64)
  | setCode (code : Bytes)
  | setSlot (key value : Word)
  | setSlots (slots : List (Word × Word))
  | clearStorage

def edit (account : Account) : Edit → Account
  | .setBalance balance => { account with balance }
  | .setNonce nonce => { account with nonce }
  | .setCode code => { account with code }
  | .setSlot key value => account.setSlot key value
  | .setSlots slots => account.setSlots slots
  | .clearStorage => account.clearStorage

def editAll (account : Account) (edits : List Edit) : Account := edits.foldl edit account

/-- The words an edit leaves, where those before it are given for all keys. -/
def Edit.words : Edit → (Word → Word) → Word → Word
  | .setSlot key value, before => fun other => if key = other then value else before other
  | .setSlots slots, before => fun key => (lastAssigned key slots).getD (before key)
  | .clearStorage, _ => fun _ => 0#256
  | .setBalance _, before | .setNonce _, before | .setCode _, before => before

theorem slot_edit (account : Account) (edit : Edit) :
    (account.edit edit).slot = edit.words account.slot := by
  cases edit with
  | setSlot key value =>
    funext other
    have written := Slots.get_set account.storage key other value
    by_cases same : key = other
    · calc
        (account.setSlot key value).slot other = value := by
          rw [slot, setSlot, written, if_pos (congrArg _ same)]
        _ = (Edit.setSlot key value).words account.slot other := (if_pos same).symm
    · calc
        (account.setSlot key value).slot other = account.slot other := by
          rw [slot, setSlot, written, if_neg fun ranks => same (Key.rank_injective ranks), slot]
        _ = (Edit.setSlot key value).words account.slot other := (if_neg same).symm
  | setSlots slots =>
    funext key
    exact slot_setSlots account slots key
  | setBalance | setNonce | setCode | clearStorage => rfl

theorem slot_editAll (account : Account) (edits : List Edit) :
    (account.editAll edits).slot =
      edits.foldl (fun words edit => edit.words words) account.slot := by
  induction edits generalizing account with
  | nil => rfl
  | cons edit rest ih =>
    rw [List.foldl_cons, ← slot_edit]
    exact ih (account.edit edit)

/-- Slots are stored exactly if they do not hold zero. -/
def Canonical (account : Account) : Prop :=
  ∀ key value, (key, value) ∈ account.storage.toList ↔ value ≠ 0#256 ∧ account.slot key = value

theorem canonical (account : Account) : account.Canonical := account.storage.mem_toList_iff

theorem ext_slot {one other : Account} (balances : one.balance = other.balance)
    (nonces : one.nonce = other.nonce) (codes : one.code = other.code)
    (slots : ∀ key, one.slot key = other.slot key) : one = other := by
  have storages : one.storage = other.storage := Slots.ext slots
  cases one
  cases other
  cases balances
  cases nonces
  cases codes
  cases storages
  rfl

end Account

namespace World

/-- What can be done to a world, up to the execution of transactions. -/
inductive Edit where
  | insert (address : Address) (account : Account)
  | erase (address : Address)
  | entry (address : Address) (edit : Account.Edit)
  | adjust (address : Address) (edit : Account.Edit)
  | session (operations : List Evm.Journal.Operation) (cleanup : Bool)
  | execute (rules : Rules) (limits : Evm.Limits) (environment : Environment)
      (signed : SignedTransaction)

def edit (world : World) : Edit → World
  | .insert address account => world.insert address account
  | .erase address => world.erase address
  | .entry address edit => world.update address (·.edit edit)
  | .adjust address edit => Evm.Journal.adjust world address (·.edit edit)
  | .session operations cleanup =>
    (((Evm.Journal.Session.start (.start world)).run operations).journal.finish cleanup).1
  | .execute rules limits environment signed =>
    (Evm.execute rules limits world environment signed).post

def editAll (world : World) (edits : List Edit) : World := edits.foldl edit world

def Canonical (world : World) : Prop :=
  ∀ address account, world.get? address = some account → account.Canonical

theorem canonical (world : World) : world.Canonical := fun _ account _ => account.canonical

/-- Two worlds cannot be told apart by what they answer about an address. -/
structure ReadsAlike (one other : World) (address : Address) : Prop where
  contains : one.contains address = other.contains address
  balance : one.balance address = other.balance address
  nonce : one.nonce address = other.nonce address
  code : (one.account address).code = (other.account address).code
  slot : ∀ key, one.slot address key = other.slot address key

theorem get?_eq_of_account_eq {one other : World} {address : Address}
    (present : one.contains address = other.contains address)
    (accounts : one.account address = other.account address) :
    one.get? address = other.get? address := by
  rw [contains, contains] at present
  rw [account, account] at accounts
  generalize one.get? address = here, other.get? address = there at present accounts ⊢
  cases here with
  | none =>
    cases there with
    | none => rfl
    | some account => cases present
  | some account =>
    cases there with
    | none => cases present
    | some other => exact congrArg some accounts

theorem get?_eq_iff {one other : World} {address : Address} :
    one.get? address = other.get? address ↔ ReadsAlike one other address := by
  constructor
  · intro same
    have accounts : one.account address = other.account address := by
      rw [account, account, same]
    refine ⟨?_, congrArg Account.balance accounts, congrArg Account.nonce accounts,
      congrArg Account.code accounts, fun key => ?_⟩
    · rw [contains, contains, same]
    · rw [slot, slot, accounts]
  · intro alike
    apply get?_eq_of_account_eq alike.contains
    exact Account.ext_slot alike.balance alike.nonce alike.code alike.slot

theorem eq_iff_readsAlike {one other : World} :
    one = other ↔ ∀ address, ReadsAlike one other address := by
  constructor
  · rintro rfl address
    exact get?_eq_iff.mp rfl
  · intro alike
    exact World.ext fun address => get?_eq_iff.mpr (alike address)

end World

/-- Neither the worlds of a journal nor its transient slots hold a zero. -/
structure Evm.Journal.Canonical (journal : Evm.Journal) : Prop where
  world : journal.world.Canonical
  initial : journal.initial.Canonical
  transient : ∀ slot value, (slot, value) ∈ journal.transient.toList ↔
    value ≠ 0#256 ∧ journal.transientSlot slot.1 slot.2 = value

theorem Evm.Journal.canonical (journal : Evm.Journal) : journal.Canonical :=
  ⟨journal.world.canonical, journal.initial.canonical, journal.transient.mem_toList_iff⟩

namespace Scenario

/-- Two expectations of an account differ at most in zero slots that only one of them names. -/
structure ExpectedAccount.AsksAlike (one other : ExpectedAccount) : Prop where
  balance : one.balance = other.balance
  nonce : one.nonce = other.nonce
  code : one.code = other.code
  storage : Option.Rel (fun storage given => expectedSlot storage = expectedSlot given)
    one.storage other.storage

inductive Expectation.AsksAlike : Expectation → Expectation → Prop where
  | absent : AsksAlike .absent .absent
  | present {one other : ExpectedAccount} (alike : one.AsksAlike other) :
      AsksAlike (.present one) (.present other)

/-- The same is expected at every address, but for zero slots. -/
def AskAlike (one other : ExpectedWorld) : Prop :=
  ∀ address, Option.Rel Expectation.AsksAlike (one.get? address) (other.get? address)

theorem ExpectedAccount.AsksAlike.symm {one other : ExpectedAccount}
    (alike : one.AsksAlike other) : other.AsksAlike one := by
  refine ⟨alike.balance.symm, alike.nonce.symm, alike.code.symm, ?_⟩
  have related := alike.storage
  generalize one.storage = storage, other.storage = given at related ⊢
  cases related with
  | none => exact .none
  | some same => exact .some same.symm

theorem Expectation.AsksAlike.symm {one other : Expectation} (alike : one.AsksAlike other) :
    other.AsksAlike one := by
  cases alike with
  | absent => exact .absent
  | present alike => exact .present alike.symm

theorem AskAlike.symm {one other : ExpectedWorld} (alike : AskAlike one other) :
    AskAlike other one := by
  intro address
  have related := alike address
  generalize one.get? address = expectation, other.get? address = wanted at related ⊢
  cases related with
  | none => exact .none
  | some alike => exact .some alike.symm

theorem ExpectedAccount.Misses.of_asksAlike {one other : ExpectedAccount} {account : Account}
    {field : Field} {wanted found : String} (alike : one.AsksAlike other)
    (misses : one.Misses account field wanted found) :
    other.Misses account field wanted found := by
  cases misses with
  | balance given differs => exact .balance (alike.balance ▸ given) differs
  | nonce given differs => exact .nonce (alike.nonce ▸ given) differs
  | code given differs => exact .code (alike.code ▸ given) differs
  | storage key given differs =>
    have related := alike.storage
    rw [given] at related
    generalize stored : other.storage = storage at related
    cases related with
    | some same =>
      rw [same] at differs ⊢
      exact .storage key stored differs

theorem Expectation.Misses.of_asksAlike {one other : Expectation} {account : Option Account}
    {field : Field} {wanted found : String} (alike : one.AsksAlike other)
    (misses : one.Misses account field wanted found) :
    other.Misses account field wanted found := by
  cases alike with
  | absent => exact misses
  | present alike =>
    cases misses with
    | missing => exact .missing
    | field misses => exact .field (misses.of_asksAlike alike)

theorem IsViolation.of_askAlike {one other : ExpectedWorld} {world : World} {mismatch : Mismatch}
    (alike : AskAlike one other) (violates : IsViolation one world mismatch) :
    IsViolation other world mismatch := by
  obtain ⟨expectation, listed, misses⟩ := violates
  have related := alike mismatch.address
  rw [listed] at related
  generalize expects : other.get? mismatch.address = wanted at related
  cases related with
  | some alike =>
    exact ⟨_, expects, misses.of_asksAlike alike⟩

theorem Mismatch.Precedes.asymm {left right : Mismatch} (precedes : left.Precedes right) :
    ¬ right.Precedes left := by
  rw [Mismatch.Precedes, Address.lt_iff_rank_lt] at precedes ⊢
  change _ ∨ _ ∧ left.field.place < right.field.place at precedes
  change ¬ (_ ∨ _ ∧ right.field.place < left.field.place)
  rcases precedes with less | ⟨same, less⟩
  · rintro (more | ⟨same, -⟩)
    · exact Nat.lt_asymm less more
    · rw [same] at less
      exact Nat.lt_irrefl _ less
  · rintro (more | ⟨-, more⟩)
    · rw [same] at more
      exact Nat.lt_irrefl _ more
    · exact Nat.lt_asymm less more

theorem verify_of_askAlike {one other : ExpectedWorld} (alike : AskAlike one other)
    (world : World) : verify one world = verify other world := by
  have : Std.Antisymm Mismatch.Precedes := ⟨fun _ _ before after => (before.asymm after).elim⟩
  have : Std.Irrefl Mismatch.Precedes := ⟨fun _ before => before.asymm before⟩
  apply List.Pairwise.eq_of_mem_iff (pairwise_verify one world) (pairwise_verify other world)
  intro mismatch
  rw [mem_verify, mem_verify]
  exact ⟨.of_askAlike alike, .of_askAlike alike.symm⟩

end Scenario

/-- Whatever was done to accounts, worlds and journals, the slots that are stored are those that do
not hold zero. Two worlds are equal exactly if they read the same, their difference lists the
addresses that read differently, and verification sees no difference between a zero slot and one that
is missing, be it in the world or in what is expected of it. -/
theorem storage_is_canonical :
    (∀ (account : Account) (edits : List Account.Edit) (key value : Word),
      (key, value) ∈ (account.editAll edits).storage.toList ↔ value ≠ 0#256 ∧
        edits.foldl (fun words edit => edit.words words) account.slot key = value) ∧
    (∀ (session : Evm.Journal.Session) (operations : List Evm.Journal.Operation),
      (session.run operations).journal.Canonical) ∧
    ∀ (start elsewhere : World) (edits others : List World.Edit),
      (start.editAll edits).Canonical ∧
        (start.editAll edits = elsewhere.editAll others ↔
          ∀ address, (start.editAll edits).ReadsAlike (elsewhere.editAll others) address) ∧
        (∀ address,
          ((start.editAll edits).diff (elsewhere.editAll others)).contains address = true ↔
            ¬ (start.editAll edits).ReadsAlike (elsewhere.editAll others) address) ∧
        ∀ expected wanted : Scenario.ExpectedWorld, Scenario.AskAlike expected wanted →
          (∀ address, (start.editAll edits).ReadsAlike (elsewhere.editAll others) address) →
            Scenario.verify expected (start.editAll edits) =
              Scenario.verify wanted (elsewhere.editAll others) := by
  refine ⟨?_, ?_, ?_⟩
  · intro account edits key value
    rw [← Account.slot_editAll]
    exact (account.editAll edits).canonical key value
  · intro session operations
    exact (session.run operations).journal.canonical
  · intro start elsewhere edits others
    refine ⟨World.canonical _, World.eq_iff_readsAlike, fun address => ?_, ?_⟩
    · rw [World.contains_diff, Ne, World.get?_eq_iff]
    · intro expected wanted asks reads
      rw [World.eq_iff_readsAlike.mpr reads]
      exact Scenario.verify_of_askAlike asks _

def clearedEdits : List World.Edit :=
  [.entry ⟨1#160⟩ (.setSlot 5#256 7#256), .entry ⟨1#160⟩ (.setSlot 5#256 0#256)]

theorem storage_is_canonical_cleared :
    World.empty.editAll clearedEdits = World.empty.editAll [.insert ⟨1#160⟩ {}] ∧
      Scenario.verify
          (.ofList [(⟨1#160⟩, .present { storage := some (.ofList [(5#256, 0#256)]) })])
          (World.empty.editAll clearedEdits) =
        Scenario.verify (.ofList [(⟨1#160⟩, .present { storage := some ∅ })])
          (World.empty.editAll [.insert ⟨1#160⟩ {}]) := by
  have zero : Scenario.expectedSlot (.ofList [(5#256, 0#256)]) = Scenario.expectedSlot ∅ := by
    funext key
    simp only [Scenario.expectedSlot, SortedMap.get?_ofList, lastAssigned_cons]
    split <;> rfl
  have asks : Scenario.AskAlike
      (.ofList [(⟨1#160⟩, .present { storage := some (.ofList [(5#256, 0#256)]) })])
      (.ofList [(⟨1#160⟩, .present { storage := some ∅ })]) := by
    intro address
    simp only [SortedMap.get?_ofList, lastAssigned_cons]
    split
    · exact .some (.present ⟨rfl, rfl, rfl, .some zero⟩)
    · exact .none
  obtain ⟨-, -, worlds⟩ := storage_is_canonical
  obtain ⟨-, equal, -, verifies⟩ :=
    worlds World.empty World.empty clearedEdits [.insert ⟨1#160⟩ {}]
  have same : World.empty.editAll clearedEdits = World.empty.editAll [.insert ⟨1#160⟩ {}] := by
    decide +kernel
  exact ⟨same, verifies _ _ asks (equal.mp same)⟩

end StateTransition
