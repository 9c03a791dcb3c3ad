import StateTransition.Proofs.Bytes
import StateTransition.Proofs.SortedMap
import StateTransition.Scenario.Expectation

/-!
What verification reports. What an expectation asks for and how it can be missed is said here without
reference to the comparison; the report lists exactly what is missed, each once, by address and field.
-/

namespace StateTransition

theorem Address.lt_iff_rank_lt {left right : Address} :
    left < right ↔ Key.rank left < Key.rank right :=
  Bytes.toBigEndian_lt_iff left.bits.isLt right.bits.isLt

theorem SortedSet.mem_keys_ofKeys {κ : Type} [Key κ] (keys : List κ) (key : κ) :
    key ∈ (SortedSet.ofKeys keys).keys ↔ key ∈ keys := by
  rw [← SortedMap.contains_iff_mem_keys, SortedMap.contains, SortedSet.ofKeys,
    SortedMap.get?_ofList]
  constructor
  · intro found
    obtain ⟨value, assigned⟩ := Option.isSome_iff_exists.mp found
    obtain ⟨listed, member, same⟩ := List.mem_map.mp (mem_of_lastAssigned assigned)
    rw [← (Prod.mk.inj same).1]
    exact member
  · intro member
    have entry : (key, ()) ∈ keys.map fun key => (key, ()) := List.mem_map.mpr ⟨key, member, rfl⟩
    exact lastAssigned_isSome_of_mem entry

theorem SortedMap.pairwise_keys {κ ν : Type} [Key κ] (map : SortedMap κ ν) :
    map.keys.Pairwise fun first second => Key.rank first < Key.rank second :=
  List.pairwise_map.mpr map.sorted

namespace Scenario

/-- What is expected of a slot: zero, where nothing is. -/
def expectedSlot (storage : SortedMap Word Word) (key : Word) : Word :=
  (storage.get? key).getD 0#256

/-- An account has all that is expected of it; of storage, every key counts. -/
structure ExpectedAccount.MetBy (expected : ExpectedAccount) (account : Account) : Prop where
  balance : ∀ balance ∈ expected.balance, balance = account.balance
  nonce : ∀ nonce ∈ expected.nonce, nonce = account.nonce
  code : ∀ code ∈ expected.code, code = account.code
  storage : ∀ storage ∈ expected.storage, ∀ key, expectedSlot storage key = account.slot key

inductive Expectation.MetBy : Expectation → Option Account → Prop where
  | absent : MetBy .absent none
  | present {expected : ExpectedAccount} {account : Account} (met : expected.MetBy account) :
      MetBy (.present expected) (some account)

/-- A world meets every expectation at its address. -/
def Meets (expected : ExpectedWorld) (world : World) : Prop :=
  ∀ address expectation, expected.get? address = some expectation →
    expectation.MetBy (world.get? address)

/-- A field that is given differs, with the texts of what is expected of it and what it is. -/
inductive ExpectedAccount.Misses (expected : ExpectedAccount) (account : Account) :
    Field → String → String → Prop where
  | balance {balance : Word} (given : expected.balance = some balance)
      (differs : balance ≠ account.balance) :
      Misses expected account .balance balance.hexText account.balance.hexText
  | nonce {nonce : UInt64} (given : expected.nonce = some nonce)
      (differs : nonce ≠ account.nonce) :
      Misses expected account .nonce (toString nonce.toNat) (toString account.nonce.toNat)
  | code {code : Bytes} (given : expected.code = some code) (differs : code ≠ account.code) :
      Misses expected account .code (Hex.encodeMarked code) (Hex.encodeMarked account.code)
  | storage {storage : SortedMap Word Word} (key : Word) (given : expected.storage = some storage)
      (differs : expectedSlot storage key ≠ account.slot key) :
      Misses expected account (.storage key) (expectedSlot storage key).hexText
        (account.slot key).hexText

/-- What is there, or is not, differs from what is expected. Of an account that is not there nothing
but its existence is missed. -/
inductive Expectation.Misses : Expectation → Option Account → Field → String → String → Prop where
  | unexpected {account : Account} :
      Misses .absent (some account) .existence "absent" "present"
  | missing {expected : ExpectedAccount} :
      Misses (.present expected) none .existence "present" "absent"
  | field {expected : ExpectedAccount} {account : Account} {field : Field} {wanted found : String}
      (misses : expected.Misses account field wanted found) :
      Misses (.present expected) (some account) field wanted found

/-- What is expected at the address of a mismatch is missed in the way it says. -/
def IsViolation (expected : ExpectedWorld) (world : World) (mismatch : Mismatch) : Prop :=
  ∃ expectation, expected.get? mismatch.address = some expectation ∧
    expectation.Misses (world.get? mismatch.address) mismatch.field mismatch.expected
      mismatch.actual

def Field.place : Field → Nat
  | existence => 0
  | balance => 1
  | nonce => 2
  | code => 3
  | storage key => 4 + key.toNat

instance : LT Field := ⟨fun left right => left.place < right.place⟩

def Mismatch.Precedes (left right : Mismatch) : Prop :=
  left.address < right.address ∨ left.address = right.address ∧ left.field < right.field

structure ExpectedAccount.Agree (expected : ExpectedAccount) (one other : Account) : Prop where
  balance : expected.balance.isSome = true → one.balance = other.balance
  nonce : expected.nonce.isSome = true → one.nonce = other.nonce
  code : expected.code.isSome = true → one.code = other.code
  storage : expected.storage.isSome = true → ∀ key, one.slot key = other.slot key

inductive Expectation.Agree : Expectation → Option Account → Option Account → Prop where
  | missing {expectation : Expectation} : Agree expectation none none
  | absent {one other : Account} : Agree .absent (some one) (some other)
  | present {expected : ExpectedAccount} {one other : Account} (agree : expected.Agree one other) :
      Agree (.present expected) (some one) (some other)

/-- Two worlds agree on all that is expected of either; elsewhere they may differ. -/
def AgreeOn (expected : ExpectedWorld) (world other : World) : Prop :=
  ∀ address expectation, expected.get? address = some expectation →
    expectation.Agree (world.get? address) (other.get? address)

namespace Expectation

variable {α : Type} [DecidableEq α] {address : Address} {field : Field} {render : α → String}
  {mismatch : Mismatch}

theorem mem_compare {expected actual : α} :
    mismatch ∈ compare address field render expected actual ↔
      expected ≠ actual ∧ mismatch = ⟨address, field, render expected, render actual⟩ := by
  rw [compare]
  split <;> simp_all

theorem mem_compareOptional {expected : Option α} {actual : α} :
    mismatch ∈ compareOptional address field render expected actual ↔
      ∃ wanted, expected = some wanted ∧ wanted ≠ actual ∧
        mismatch = ⟨address, field, render wanted, render actual⟩ := by
  cases expected with
  | none => simp [compareOptional]
  | some wanted => simp [compareOptional, mem_compare]

theorem mem_compareStorage {expected : SortedMap Word Word} {actual : Slots Word} :
    mismatch ∈ compareStorage address expected actual ↔
      ∃ key, expectedSlot expected key ≠ actual.get key ∧
        mismatch = ⟨address, .storage key, (expectedSlot expected key).hexText,
          (actual.get key).hexText⟩ := by
  simp only [compareStorage, List.mem_flatMap, mem_compare, SortedSet.mem_keys_ofKeys,
    List.mem_append]
  constructor
  · rintro ⟨key, -, differs, same⟩
    exact ⟨key, differs, same⟩
  · rintro ⟨key, differs, same⟩
    refine ⟨key, ?_, differs, same⟩
    by_contra unlisted
    rw [not_or, ← SortedMap.contains_iff_mem_keys, ← SortedMap.contains_iff_mem_keys,
      SortedMap.contains, SortedMap.contains, Option.isSome_iff_ne_none,
      Option.isSome_iff_ne_none, not_not, not_not] at unlisted
    apply differs
    rw [expectedSlot, Slots.get, unlisted.1, unlisted.2]

theorem mem_compareAccount {expected : ExpectedAccount} {account : Account} :
    mismatch ∈ compareAccount address expected account ↔
      mismatch.address = address ∧
        expected.Misses account mismatch.field mismatch.expected mismatch.actual := by
  simp only [compareAccount, List.mem_append, mem_compareOptional]
  constructor
  · rintro (((⟨wanted, given, differs, rfl⟩ | ⟨wanted, given, differs, rfl⟩) |
      ⟨wanted, given, differs, rfl⟩) | listed)
    · exact ⟨rfl, .balance given differs⟩
    · exact ⟨rfl, .nonce given differs⟩
    · exact ⟨rfl, .code given differs⟩
    · cases given : expected.storage with
      | none => simp [given] at listed
      | some storage =>
        rw [given, Option.elim_some, mem_compareStorage] at listed
        obtain ⟨key, differs, rfl⟩ := listed
        exact ⟨rfl, .storage key given differs⟩
  · obtain ⟨home, field, wanted, found⟩ := mismatch
    rintro ⟨rfl, misses⟩
    cases misses with
    | balance given differs => exact Or.inl (Or.inl (Or.inl ⟨_, given, differs, rfl⟩))
    | nonce given differs => exact Or.inl (Or.inl (Or.inr ⟨_, given, differs, rfl⟩))
    | code given differs => exact Or.inl (Or.inr ⟨_, given, differs, rfl⟩)
    | storage key given differs =>
      right
      rw [given, Option.elim_some, mem_compareStorage]
      exact ⟨key, differs, rfl⟩

theorem mem_mismatches {expectation : Expectation} {account : Option Account} :
    mismatch ∈ expectation.mismatches address account ↔
      mismatch.address = address ∧
        expectation.Misses account mismatch.field mismatch.expected mismatch.actual := by
  obtain ⟨home, field, wanted, found⟩ := mismatch
  cases expectation with
  | absent =>
    cases account with
    | none =>
      simp only [mismatches, List.not_mem_nil, false_iff]
      rintro ⟨-, ⟨⟩⟩
    | some account =>
      simp only [mismatches, List.mem_singleton, Mismatch.mk.injEq]
      constructor
      · rintro ⟨rfl, rfl, rfl, rfl⟩
        exact ⟨rfl, .unexpected⟩
      · rintro ⟨rfl, ⟨⟩⟩
        exact ⟨rfl, rfl, rfl, rfl⟩
  | present expected =>
    cases account with
    | none =>
      simp only [mismatches, List.mem_singleton, Mismatch.mk.injEq]
      constructor
      · rintro ⟨rfl, rfl, rfl, rfl⟩
        exact ⟨rfl, .missing⟩
      · rintro ⟨rfl, ⟨⟩⟩
        exact ⟨rfl, rfl, rfl, rfl⟩
    | some account =>
      rw [mismatches, mem_compareAccount]
      constructor
      · rintro ⟨same, misses⟩
        exact ⟨same, .field misses⟩
      · rintro ⟨same, ⟨⟩ | ⟨⟩ | ⟨misses⟩⟩
        exact ⟨same, misses⟩

/-- Mismatches of one address in order, with fields from one place up to another. -/
structure Block (address : Address) (low high : Nat) (mismatches : List Mismatch) : Prop where
  ordered : mismatches.Pairwise Mismatch.Precedes
  within : ∀ mismatch ∈ mismatches, mismatch.address = address ∧
    low ≤ mismatch.field.place ∧ mismatch.field.place < high

theorem Block.append {low middle high : Nat} {first second : List Mismatch}
    (front : Block address low middle first) (back : Block address middle high second)
    (lowLe : low ≤ middle) (leHigh : middle ≤ high) :
    Block address low high (first ++ second) := by
  constructor
  · refine List.pairwise_append.mpr ⟨front.ordered, back.ordered, fun left inFront right inBack => ?_⟩
    obtain ⟨home, -, below⟩ := front.within left inFront
    obtain ⟨same, above, -⟩ := back.within right inBack
    exact Or.inr ⟨home.trans same.symm, Nat.lt_of_lt_of_le below above⟩
  · intro mismatch listed
    rcases List.mem_append.mp listed with inFront | inBack
    · obtain ⟨home, above, below⟩ := front.within mismatch inFront
      exact ⟨home, above, Nat.lt_of_lt_of_le below leHigh⟩
    · obtain ⟨home, above, below⟩ := back.within mismatch inBack
      exact ⟨home, Nat.le_trans lowLe above, below⟩

theorem Block.singleton (mismatch : Mismatch) :
    Block mismatch.address mismatch.field.place (mismatch.field.place + 1) [mismatch] := by
  refine ⟨List.pairwise_singleton _ _, fun other listed => ?_⟩
  rw [List.mem_singleton.mp listed]
  exact ⟨rfl, Nat.le_refl _, Nat.lt_succ_self _⟩

theorem Block.nil (address : Address) (low high : Nat) : Block address low high [] :=
  ⟨List.Pairwise.nil, nofun⟩

theorem block_compareOptional (address : Address) (field : Field) (render : α → String)
    (expected : Option α) (actual : α) :
    Block address field.place (field.place + 1)
      (compareOptional address field render expected actual) := by
  cases expected with
  | none => exact Block.nil _ _ _
  | some wanted =>
    simp only [compareOptional, Option.elim_some, compare]
    split
    · exact Block.nil _ _ _
    · exact Block.singleton ⟨address, field, _, _⟩

theorem block_compareStorage (expected : SortedMap Word Word) (actual : Slots Word) :
    Block address 4 (4 + 2 ^ 256) (compareStorage address expected actual) := by
  constructor
  · rw [compareStorage, List.pairwise_flatMap]
    constructor
    · intro key _
      rw [compare]
      split
      · exact List.Pairwise.nil
      · exact List.pairwise_singleton _ _
    · refine (SortedMap.pairwise_keys _).imp fun less left inFirst right inSecond => ?_
      obtain ⟨-, rfl⟩ := mem_compare.mp inFirst
      obtain ⟨-, rfl⟩ := mem_compare.mp inSecond
      exact Or.inr ⟨rfl, Nat.add_lt_add_left less 4⟩
  · intro mismatch listed
    obtain ⟨key, -, rfl⟩ := mem_compareStorage.mp listed
    exact ⟨rfl, Nat.le_add_right 4 _, Nat.add_lt_add_left key.isLt 4⟩

theorem block_compareAccount (expected : ExpectedAccount) (account : Account) :
    Block address 1 (4 + 2 ^ 256) (compareAccount address expected account) := by
  have storage : Block address 4 (4 + 2 ^ 256)
      (expected.storage.elim [] fun storage => compareStorage address storage account.storage) := by
    cases expected.storage with
    | none => exact Block.nil _ _ _
    | some storage => exact block_compareStorage storage account.storage
  have balances : Block address 1 2 _ :=
    block_compareOptional address .balance Word.hexText expected.balance account.balance
  have nonces : Block address 2 3 _ :=
    block_compareOptional address .nonce (fun nonce => toString nonce.toNat) expected.nonce
      account.nonce
  have codes : Block address 3 4 _ :=
    block_compareOptional address .code Hex.encodeMarked expected.code account.code
  exact ((balances.append nonces (by decide) (by decide)).append codes (by decide)
    (by decide)).append storage (by decide) (by decide)

theorem block_mismatches (expectation : Expectation) (account : Option Account) :
    Block address 0 (4 + 2 ^ 256) (expectation.mismatches address account) := by
  have existence (wanted found : String) :
      Block address 0 (4 + 2 ^ 256) [⟨address, .existence, wanted, found⟩] := by
    have first : Block address 0 1 [⟨address, .existence, wanted, found⟩] :=
      Block.singleton ⟨address, .existence, wanted, found⟩
    exact first.append (Block.nil _ _ _) (by decide) (by decide)
  cases expectation with
  | absent =>
    cases account with
    | none => exact Block.nil _ _ _
    | some account => exact existence _ _
  | present expected =>
    cases account with
    | none => exact existence _ _
    | some account =>
      exact (Block.nil address 0 1).append (block_compareAccount expected account) (by decide)
        (by decide)

theorem metBy_account_iff {expected : ExpectedAccount} {account : Account} :
    expected.MetBy account ↔
      ∀ field wanted found, ¬ expected.Misses account field wanted found := by
  constructor
  · rintro ⟨balances, nonces, codes, storages⟩ field wanted found misses
    cases misses with
    | balance given differs => exact differs (balances _ given)
    | nonce given differs => exact differs (nonces _ given)
    | code given differs => exact differs (codes _ given)
    | storage key given differs => exact differs (storages _ given key)
  · intro spared
    constructor
    · intro balance given
      by_contra differs
      exact spared _ _ _ (.balance given differs)
    · intro nonce given
      by_contra differs
      exact spared _ _ _ (.nonce given differs)
    · intro code given
      by_contra differs
      exact spared _ _ _ (.code given differs)
    · intro storage given key
      by_contra differs
      exact spared _ _ _ (.storage key given differs)

theorem metBy_iff {expectation : Expectation} {account : Option Account} :
    expectation.MetBy account ↔
      ∀ field wanted found, ¬ expectation.Misses account field wanted found := by
  constructor
  · intro met field wanted found misses
    cases met with
    | absent => cases misses
    | present met =>
      cases misses with
      | field misses => exact metBy_account_iff.mp met _ _ _ misses
  · intro spared
    cases expectation with
    | absent =>
      cases account with
      | none => exact .absent
      | some account => exact absurd .unexpected (spared _ _ _)
    | present expected =>
      cases account with
      | none => exact absurd .missing (spared _ _ _)
      | some account =>
        exact .present (metBy_account_iff.mpr fun _ _ _ misses => spared _ _ _ (.field misses))

theorem compareOptional_congr {expected : Option α} {one other : α}
    (agree : expected.isSome = true → one = other) :
    compareOptional address field render expected one =
      compareOptional address field render expected other := by
  cases expected with
  | none => rfl
  | some wanted => rw [agree rfl]

theorem compareAccount_congr {expected : ExpectedAccount} {one other : Account}
    (agree : expected.Agree one other) :
    compareAccount address expected one = compareAccount address expected other := by
  rw [compareAccount, compareAccount, compareOptional_congr agree.balance,
    compareOptional_congr agree.nonce, compareOptional_congr agree.code]
  cases given : expected.storage with
  | none => rfl
  | some storage =>
    have slots : one.storage = other.storage :=
      Slots.ext (agree.storage (by rw [given, Option.isSome_some]))
    rw [slots]

theorem mismatches_congr {expectation : Expectation} {one other : Option Account}
    (agree : expectation.Agree one other) :
    expectation.mismatches address one = expectation.mismatches address other := by
  cases agree with
  | missing => rfl
  | absent => rfl
  | present agree => exact compareAccount_congr agree

end Expectation

variable {expected : ExpectedWorld} {world : World}

theorem mem_verify {mismatch : Mismatch} :
    mismatch ∈ verify expected world ↔ IsViolation expected world mismatch := by
  simp only [verify, List.mem_flatMap, Expectation.mem_mismatches]
  constructor
  · rintro ⟨⟨address, expectation⟩, listed, rfl, misses⟩
    exact ⟨expectation, (SortedMap.mem_toList_iff _ _ _).mp listed, misses⟩
  · rintro ⟨expectation, listed, misses⟩
    exact ⟨(mismatch.address, expectation), (SortedMap.mem_toList_iff _ _ _).mpr listed, rfl, misses⟩

theorem pairwise_verify (expected : ExpectedWorld) (world : World) :
    (verify expected world).Pairwise Mismatch.Precedes := by
  rw [verify, List.pairwise_flatMap]
  constructor
  · intro entry _
    exact (Expectation.block_mismatches _ _).ordered
  · refine expected.sorted.imp fun less left inFirst right inSecond => ?_
    have first := (Expectation.mem_mismatches.mp inFirst).1
    have second := (Expectation.mem_mismatches.mp inSecond).1
    rw [Mismatch.Precedes, first, second]
    exact Or.inl (Address.lt_iff_rank_lt.mpr less)

theorem verify_eq_nil_iff : verify expected world = [] ↔ Meets expected world := by
  rw [List.eq_nil_iff_forall_not_mem]
  constructor
  · intro clean address expectation listed
    refine Expectation.metBy_iff.mpr fun field wanted found misses => ?_
    exact clean ⟨address, field, wanted, found⟩ (mem_verify.mpr ⟨expectation, listed, misses⟩)
  · intro meets mismatch reported
    obtain ⟨expectation, listed, misses⟩ := mem_verify.mp reported
    exact Expectation.metBy_iff.mp (meets _ _ listed) _ _ _ misses

theorem verify_congr {other : World} (agree : AgreeOn expected world other) :
    verify expected world = verify expected other := by
  rw [verify, verify, List.flatMap, List.flatMap]
  refine congrArg List.flatten (List.map_congr_left fun entry listed => ?_)
  exact Expectation.mismatches_congr (agree _ _ ((SortedMap.mem_toList_iff _ _ _).mp listed))

theorem mem_verify_of_missing {address : Address} {account : ExpectedAccount}
    (listed : expected.get? address = some (.present account)) (missing : world.get? address = none)
    (mismatch : Mismatch) :
    mismatch ∈ verify expected world ∧ mismatch.address = address ↔
      mismatch = ⟨address, .existence, "present", "absent"⟩ := by
  rw [mem_verify]
  constructor
  · obtain ⟨home, field, wanted, found⟩ := mismatch
    rintro ⟨⟨expectation, expects, misses⟩, rfl⟩
    simp only at expects misses
    rw [listed] at expects
    cases expects
    rw [missing] at misses
    cases misses
    rfl
  · rintro rfl
    refine ⟨⟨_, listed, ?_⟩, rfl⟩
    rw [missing]
    exact .missing

/-- A report is empty exactly if the world meets what is expected. It lists what is missed and nothing
else, in the order of addresses and then of fields, so nothing twice. Addresses and fields that are not
expected do not change it, and an account that is missing is listed once. -/
theorem verify_exact (expected : ExpectedWorld) (world : World) :
    (verify expected world = [] ↔ Meets expected world) ∧
      (∀ mismatch, mismatch ∈ verify expected world ↔ IsViolation expected world mismatch) ∧
      (verify expected world).Pairwise Mismatch.Precedes ∧
      (∀ other, AgreeOn expected world other → verify expected world = verify expected other) ∧
      ∀ address account, expected.get? address = some (.present account) →
        world.get? address = none → ∀ mismatch,
          (mismatch ∈ verify expected world ∧ mismatch.address = address ↔
            mismatch = ⟨address, .existence, "present", "absent"⟩) :=
  ⟨verify_eq_nil_iff, fun _ => mem_verify, pairwise_verify expected world,
    fun _ => verify_congr, fun _ _ => mem_verify_of_missing⟩

example :
    verify
      (.ofList [(⟨2#160⟩, .absent),
        (⟨1#160⟩, .present
          { nonce := some 2, storage := some (.ofList [(1#256, 9#256), (7#256, 0#256)]) })])
      (.ofList [(⟨1#160⟩, { nonce := 1, storage := Slots.empty.set 0#256 3#256 }), (⟨2#160⟩, {})]) =
    [⟨⟨1#160⟩, .nonce, "2", "1"⟩, ⟨⟨1#160⟩, .storage 0#256, "0x0", "0x3"⟩,
      ⟨⟨1#160⟩, .storage 1#256, "0x9", "0x0"⟩, ⟨⟨2#160⟩, .existence, "absent", "present"⟩] := by
  decide +kernel

end Scenario

end StateTransition
