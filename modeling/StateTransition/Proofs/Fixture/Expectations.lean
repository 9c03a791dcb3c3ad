import StateTransition.Fixture.Scenario
import StateTransition.Proofs.Fork.Mainnet
import StateTransition.Proofs.Json.Fields
import StateTransition.Proofs.Scenario.Draft
import StateTransition.Proofs.SortedMap

/-!
What a scenario from a file expects, said of the post section as it is written. Records are told apart
by their names, but expectations by the addresses these spell, and the same goes for slots and their
keys: of all members that spell one key, only one is kept, the one that comes last in the order of
names.
-/

namespace StateTransition.Fixture

open Scenario
open Evm (bind_eq_ok eq_ok_of_toOption)
open Json (LastNamed)

/-- The records of a scenario's post section. -/
def writtenPost (scenario : Json) : List (String × Json) :=
  ((scenario.member? "post" 5).map Json.members).getD []

section Members

variable {κ ν : Type}

/-- Of the members that spell a key, this one has the last name in the order of texts, and is the
last with that name. -/
structure Counts (spell : String → Reading κ) (members : List (String × Json)) (key : κ)
    (name : String) (json : Json) : Prop where
  spells : spell name = .ok key
  last : LastNamed name json members
  greatest : ∀ other ∈ members, spell other.1 = .ok key → other.1 ≤ name

def Sole (spell : String → Reading κ) (members : List (String × Json)) (name : String)
    (json : Json) : Prop :=
  ∃ before after, members = before ++ (name, json) :: after ∧
    ∀ other ∈ before ++ after, spell other.1 ≠ spell name

theorem Sole.counts {spell : String → Reading κ} {members : List (String × Json)} {key : κ}
    {name : String} {json : Json} (sole : Sole spell members name json)
    (spells : spell name = .ok key) : Counts spell members key name json := by
  obtain ⟨before, after, rfl, apart⟩ := sole
  constructor
  · exact spells
  · exact .of_split fun other member same =>
      apart other (List.mem_append_right before member) (congrArg spell same)
  · intro other member alike
    rw [List.mem_append, List.mem_cons] at member
    rcases member with member | rfl | member
    · exact absurd (alike.trans spells.symm) (apart other (List.mem_append_left after member))
    · exact String.le_refl _
    · exact absurd (alike.trans spells.symm) (apart other (List.mem_append_right before member))

variable [Key κ]

/-- A map holds what the members that count mean, and nothing else. -/
structure ReadOff (spell : String → Reading κ) (meaning : Json → ν → Prop)
    (members : List (String × Json)) (map : SortedMap κ ν) : Prop where
  spelled : ∀ member ∈ members, ∃ key, spell member.1 = .ok key
  sound : ∀ key value, map.get? key = some value →
    ∃ name json, Counts spell members key name json ∧ meaning json value
  complete : ∀ key name json, Counts spell members key name json →
    ∃ value, map.get? key = some value ∧ meaning json value

/-- A map holds what the members mean whose keys are spelled once. -/
def KeepsSole (spell : String → Reading κ) (meaning : Json → ν → Prop)
    (members : List (String × Json)) (map : SortedMap κ ν) : Prop :=
  ∀ name json, Sole spell members name json →
    ∃ key value, spell name = .ok key ∧ map.get? key = some value ∧ meaning json value

section ReadOff

variable {spell : String → Reading κ} {meaning weaker : Json → ν → Prop}
  {members : List (String × Json)} {map : SortedMap κ ν}

theorem ReadOff.imp (readOff : ReadOff spell meaning members map)
    (weaken : ∀ json value, meaning json value → weaker json value) :
    ReadOff spell weaker members map := by
  constructor
  · exact readOff.spelled
  · intro key value held
    obtain ⟨name, json, counts, meant⟩ := readOff.sound key value held
    exact ⟨name, json, counts, weaken json value meant⟩
  · intro key name json counts
    obtain ⟨value, held, meant⟩ := readOff.complete key name json counts
    exact ⟨value, held, weaken json value meant⟩

theorem ReadOff.keepsSole (readOff : ReadOff spell meaning members map) :
    KeepsSole spell meaning members map := by
  intro name json sole
  have member : (name, json) ∈ members := by
    obtain ⟨before, after, rfl, _⟩ := sole
    exact List.mem_append_right before List.mem_cons_self
  obtain ⟨key, spells⟩ := readOff.spelled (name, json) member
  obtain ⟨value, held, meant⟩ := readOff.complete key name json (sole.counts spells)
  exact ⟨key, value, spells, held, meant⟩

end ReadOff

/-- A map holds what every member means. -/
def KeepsAll (spell : String → Reading κ) (meaning : Json → ν → Prop)
    (members : List (String × Json)) (map : SortedMap κ ν) : Prop :=
  ∀ name json, (name, json) ∈ members →
    ∃ key value, spell name = .ok key ∧ map.get? key = some value ∧ meaning json value

theorem KeepsSole.keepsAll {spell : String → Reading κ} {meaning : Json → ν → Prop}
    {members : List (String × Json)} {map : SortedMap κ ν}
    (keeps : KeepsSole spell meaning members map)
    (apart : members.Pairwise fun a b => spell a.1 ≠ spell b.1) :
    KeepsAll spell meaning members map := by
  intro name json member
  obtain ⟨before, after, rfl⟩ := List.append_of_mem member
  obtain ⟨_, later, across⟩ := List.pairwise_append.mp apart
  refine keeps name json ⟨before, after, rfl, fun other inside => ?_⟩
  rcases List.mem_append.mp inside with earlier | inside
  · exact across other earlier _ List.mem_cons_self
  · exact ((List.pairwise_cons.mp later).1 other inside).symm

end Members

def Means {ρ ν : Type} (form : Json → Option ρ) (read : ρ → Reading ν) (json : Json) (value : ν) :
    Prop :=
  ∃ raw, form json = some raw ∧ read raw = .ok value

def MeansWord : Json → Word → Prop := Means RawQuantity.ofJson? readWord

/-- What is expected of an account is what a record gives, field by field; `StatesSlots` is the
meaning of a storage section. -/
structure StatesAccount (StatesSlots : Json → SortedMap Word Word → Prop) (record : Json)
    (account : ExpectedAccount) : Prop where
  balance : Option.Rel MeansWord (record.given? "balance" 1) account.balance
  nonce : Option.Rel (Means RawQuantity.ofJson? readNumber) (record.given? "nonce" 2) account.nonce
  code : Option.Rel (Means Json.text? readBytes) (record.given? "code" 3) account.code
  storage : Option.Rel StatesSlots (record.given? "storage" 4) account.storage

/-- A record states that there is no account, or what the account is to have. -/
inductive States (StatesSlots : Json → SortedMap Word Word → Prop) (record : Json) :
    Expectation → Prop
  | absent (stated : record.member? "absent" 0 = some (.boolean true)) :
      States StatesSlots record .absent
  | present {account : ExpectedAccount}
      (unstated : record.member? "absent" 0 ≠ some (.boolean true))
      (fields : StatesAccount StatesSlots record account) :
      States StatesSlots record (.present account)

/-- The slots of a storage section, each with the value that counts for it. -/
def SlotsReadOff (storage : Json) (slots : SortedMap Word Word) : Prop :=
  ReadOff readWordText MeansWord storage.members slots

/-- Every slot whose key a storage section spells once, with the value it gives. -/
def SlotsKept (storage : Json) (slots : SortedMap Word Word) : Prop :=
  KeepsSole readWordText MeansWord storage.members slots

/-- What a scenario expects, for whatever rules and chain it is set up. -/
def Expects (scenario : StateTransition.Scenario) (expected : ExpectedWorld) : Prop :=
  ∀ rules chainId plan, scenario.plan rules chainId = .ok plan → plan.expected = expected

section Pairs

variable {κ ρ ν : Type} {spell : String → Reading κ} {read : ρ → Reading ν}
  {entries : List (String × ρ)} {pairs : List (κ × ν)} {key : κ} {value : ν}

theorem forall₂_mapM {α β : Type} {read : α → Reading β} {list : List α} {values : List β}
    (reads : list.mapM read = .ok values) : List.Forall₂ (fun a b => read a = .ok b) list values := by
  induction list generalizing values with
  | nil =>
    cases reads
    exact .nil
  | cons first rest ih =>
    simp only [List.mapM_cons, bind_eq_ok] at reads
    obtain ⟨value, readsFirst, others, readsRest, same⟩ := reads
    cases same
    exact .cons readsFirst (ih readsRest)

structure PairsTo (spell : String → Reading κ) (read : ρ → Reading ν) (entry : String × ρ)
    (pair : κ × ν) : Prop where
  key : spell entry.1 = .ok pair.1
  value : read entry.2 = .ok pair.2

theorem forall₂_pairsTo
    (reads : entries.mapM (fun entry => do return (← spell entry.1, ← read entry.2)) = .ok pairs) :
    List.Forall₂ (PairsTo spell read) entries pairs := by
  refine (forall₂_mapM reads).imp fun entry pair readsPair => ?_
  simp only [bind_eq_ok] at readsPair
  obtain ⟨key, spells, value, means, same⟩ := readsPair
  cases same
  exact ⟨spells, means⟩

variable [Key κ]

theorem PairsTo.spells_iff {entry : String × ρ} {pair : κ × ν} (pairs : PairsTo spell read entry pair) :
    spell entry.1 = .ok key ↔ Key.rank pair.1 = Key.rank key := by
  rw [pairs.key]
  constructor
  · intro same
    rw [Except.ok.inj same]
  · intro same
    rw [Key.rank_injective same]

theorem unassigned_iff (alike : List.Forall₂ (PairsTo spell read) entries pairs) :
    lastAssigned key pairs = none ↔ ∀ other ∈ entries, spell other.1 ≠ .ok key := by
  induction alike with
  | nil => exact ⟨fun _ => nofun, fun _ => rfl⟩
  | cons first _ ih =>
    rw [lastAssigned_cons, Option.or_eq_none_iff, ih, List.forall_mem_cons, ne_eq, first.spells_iff]
    simp [and_comm]

/-- Of the entries that spell a key, the one with the greatest name is assigned last. -/
theorem lastAssigned_iff (alike : List.Forall₂ (PairsTo spell read) entries pairs)
    (increasing : entries.Pairwise fun a b => a.1 < b.1) :
    lastAssigned key pairs = some value ↔
      ∃ name raw, (name, raw) ∈ entries ∧ spell name = .ok key ∧ read raw = .ok value ∧
        ∀ other ∈ entries, spell other.1 = .ok key → other.1 ≤ name := by
  induction alike generalizing key value with
  | nil =>
    refine ⟨nofun, ?_⟩
    rintro ⟨_, _, member, _⟩
    cases member
  | @cons entry pair entries pairs first alike ih =>
    obtain ⟨above, rest⟩ := List.pairwise_cons.mp increasing
    rw [lastAssigned_cons, Option.or_eq_some_iff, ih rest, unassigned_iff alike]
    constructor
    · rintro (⟨name, raw, member, spells, means, greatest⟩ | ⟨unspelled, here⟩)
      · refine ⟨name, raw, List.mem_cons_of_mem _ member, spells, means, ?_⟩
        refine List.forall_mem_cons.mpr ⟨fun _ => ?_, greatest⟩
        exact String.not_lt.mp (String.lt_asymm (above _ member))
      · obtain ⟨same, held⟩ := Option.ite_none_right_eq_some.mp here
        cases held
        refine ⟨entry.1, entry.2, List.mem_cons_self, first.spells_iff.mpr same, first.value, ?_⟩
        refine List.forall_mem_cons.mpr ⟨fun _ => String.le_refl _, fun other inside spells => ?_⟩
        exact absurd spells (unspelled other inside)
    · rintro ⟨name, raw, member, spells, means, greatest⟩
      rcases List.mem_cons.mp member with rfl | member
      · have same : pair.2 = value := Except.ok.inj (first.value.symm.trans means)
        refine .inr ⟨fun other inside spells => ?_, ?_⟩
        · have atMost := greatest other (List.mem_cons_of_mem _ inside) spells
          exact String.not_lt.mpr atMost (above other inside)
        · rw [if_pos (first.spells_iff.mp spells), same]
      · exact .inl ⟨name, raw, member, spells, means, (List.forall_mem_cons.mp greatest).2⟩

variable {form : Json → Option ρ} {json : Json}

theorem readOff_ofList (taken : json.entries? form = some entries)
    (reads : entries.mapM (fun entry => do return (← spell entry.1, ← read entry.2)) = .ok pairs) :
    ReadOff spell (Means form read) json.members (SortedMap.ofList pairs) := by
  have alike := forall₂_pairsTo reads
  have increasing := Json.pairwise_entries taken
  -- every member of the object stands for an entry, if not its own then one with its name
  have entry : ∀ {name field}, LastNamed name field json.members →
      ∃ raw, form field = some raw ∧ (name, raw) ∈ entries := by
    intro name field last
    obtain ⟨raw, formed⟩ := Json.exists_value_of_mem taken last.mem
    exact ⟨raw, formed, (Json.mem_entries_iff taken).mpr ⟨field, last, formed⟩⟩
  constructor
  · rintro ⟨name, field⟩ member
    obtain ⟨last, named⟩ := Json.exists_lastNamed member
    obtain ⟨raw, _, inside⟩ := entry named
    obtain ⟨pair, _, pairs⟩ := Json.exists_mem_of_forall₂ alike inside
    exact ⟨pair.1, pairs.key⟩
  · intro key value held
    rw [SortedMap.get?_ofList, lastAssigned_iff alike increasing] at held
    obtain ⟨name, raw, inside, spells, means, greatest⟩ := held
    obtain ⟨field, last, formed⟩ := (Json.mem_entries_iff taken).mp inside
    refine ⟨name, field, ⟨spells, last, ?_⟩, raw, formed, means⟩
    rintro ⟨other, written⟩ member alikeKey
    obtain ⟨_, named⟩ := Json.exists_lastNamed member
    obtain ⟨raw, _, inside⟩ := entry named
    exact greatest (other, raw) inside alikeKey
  · intro key name field counts
    obtain ⟨raw, formed, inside⟩ := entry counts.last
    obtain ⟨pair, _, pairs⟩ := Json.exists_mem_of_forall₂ alike inside
    refine ⟨pair.2, ?_, raw, formed, pairs.value⟩
    rw [SortedMap.get?_ofList, lastAssigned_iff alike increasing]
    refine ⟨name, raw, inside, counts.spells, pairs.value, ?_⟩
    rintro ⟨other, _⟩ member alikeKey
    obtain ⟨written, last, _⟩ := (Json.mem_entries_iff taken).mp member
    exact counts.greatest (other, written) last.mem alikeKey

end Pairs

section Records

variable {record json : Json} {fields : Json.Fields} {name : String} {place : Nat}

theorem rel_mono {α β : Type} {stronger weaker : α → β → Prop} {given : Option α} {kept : Option β}
    (weaken : ∀ a b, stronger a b → weaker a b) (related : Option.Rel stronger given kept) :
    Option.Rel weaker given kept := by
  cases related with
  | none => exact .none
  | some holds => exact .some (weaken _ _ holds)

theorem readOff_of_storage {slots : SortedMap Word Word}
    (means : Means (Json.entries? RawQuantity.ofJson?) readStorage json slots) :
    SlotsReadOff json slots := by
  obtain ⟨raw, taken, reads⟩ := means
  simp only [readStorage, bind_eq_ok] at reads
  obtain ⟨pairs, reads, same⟩ := reads
  cases same
  exact readOff_ofList taken reads

example : (readStorage [("0x01", .text "7"), ("0x1", .text "5")]).toOption =
    some (SortedMap.ofList [(1#256, 5#256)]) := by
  decide +kernel

theorem rel_of_optional {ρ ν : Type} {form : Json → Option ρ} {read : ρ → Reading ν}
    {raw : Option ρ} {value : Option ν} (found : fields.find? name = record.member? name place)
    (taken : fields.optional name form = some raw) (reads : readOptional read raw = .ok value) :
    Option.Rel (Means form read) (record.given? name place) value := by
  cases raw with
  | none =>
    cases reads
    rw [Json.Fields.optional_eq_none found taken]
    exact .none
  | some raw =>
    obtain ⟨field, given, formed⟩ := Json.Fields.optional_eq_some found taken
    have mapped : (read raw).map some = .ok value := reads
    obtain ⟨meaning, means, same⟩ := exists_of_map_eq_ok mapped
    rw [given, ← same]
    exact .some ⟨raw, formed, means⟩

theorem stated_iff {value : Bool} (found : fields.find? name = record.member? name place)
    (taken : fields.defaulted name false Json.boolean? = some value) :
    value = true ↔ record.member? name place = some (.boolean true) := by
  rcases Json.Fields.defaulted_eq_some found taken with ⟨missing, rfl⟩ | ⟨field, present, boolean⟩
  · rw [missing]
    exact ⟨nofun, nofun⟩
  · rw [present]
    cases field with
    | boolean written =>
      cases boolean
      constructor
      · rintro rfl
        rfl
      · intro same
        cases same
        rfl
    | _ => cases boolean

theorem states_of_means {expectation : Expectation}
    (means : Means RawExpectation.ofJson? readExpectation record expectation) :
    States SlotsReadOff record expectation := by
  obtain ⟨raw, taken, reads⟩ := means
  simp only [RawExpectation.ofJson?, Option.bind_eq_bind, Option.bind_eq_some_iff] at taken
  obtain ⟨fields, known, isAbsent, absent, balance, givesBalance, nonce, givesNonce, code,
    givesCode, storage, givesStorage, same⟩ := taken
  cases same
  have found (place : Nat) {name : String}
      (here : ["absent", "balance", "nonce", "code", "storage"][place]? = some name) :
      fields.find? name = record.member? name place :=
    Json.find?_eq_member? known (by decide) here
  have stated := stated_iff (found 0 rfl) absent
  rw [readExpectation] at reads
  split at reads
  · rename_i marked
    cases reads
    exact .absent (stated.mp marked)
  · rename_i unmarked
    simp only [bind_eq_ok] at reads
    obtain ⟨balance, readsBalance, nonce, readsNonce, code, readsCode, slots, readsStorage,
      same⟩ := reads
    cases same
    refine .present (fun marked => unmarked (stated.mpr marked)) ?_
    constructor
    · exact rel_of_optional (found 1 rfl) givesBalance readsBalance
    · exact rel_of_optional (found 2 rfl) givesNonce readsNonce
    · exact rel_of_optional (found 3 rfl) givesCode readsCode
    · have given := rel_of_optional (found 4 rfl) givesStorage readsStorage
      exact rel_mono (fun _ _ => readOff_of_storage) given

theorem States.kept {expectation : Expectation} (states : States SlotsReadOff record expectation) :
    States SlotsKept record expectation := by
  cases states with
  | absent stated => exact .absent stated
  | present unstated fields =>
    refine .present unstated ⟨fields.balance, fields.nonce, fields.code, ?_⟩
    exact rel_mono (fun _ _ => ReadOff.keepsSole) fields.storage

end Records

theorem readOff_of_expectations {json : Json} {raw : List (String × RawExpectation)}
    {expected : ExpectedWorld} (taken : json.entries? RawExpectation.ofJson? = some raw)
    (reads : readExpectations raw = .ok expected) :
    ReadOff readAddress (States SlotsReadOff) json.members expected := by
  simp only [readExpectations, bind_eq_ok] at reads
  obtain ⟨pairs, reads, same⟩ := reads
  cases same
  exact (readOff_ofList taken reads).imp fun _ _ => states_of_means

theorem bind_allocation_eq_ok {α β : Type} {action : Allocation α} {next : α → Allocation β}
    {before after : Allocator} {result : β} (run : (action >>= next) before = .ok result after) :
    ∃ answer between, action before = .ok answer between ∧ next answer between = .ok result after := by
  simp only [bind, EStateM.bind] at run
  split at run
  · rename_i answer between done
    exact ⟨answer, between, done, run⟩
  · cases run

theorem FixtureBody.expected_of_plan {body : FixtureBody} {rules : Rules} {chainId : UInt64}
    {plan : Plan} (planned : body.plan rules chainId = .ok plan) :
    plan.expected = body.expected := by
  rw [FixtureBody.plan, Plan.ofAllocation] at planned
  split at planned
  · rename_i transaction expected allocator run
    cases planned
    obtain ⟨_, _, _, rest⟩ := bind_allocation_eq_ok run
    obtain ⟨_, _, _, last⟩ := bind_allocation_eq_ok rest
    cases last
    rfl
  · cases planned

theorem readScenario_eq_ok {name : String} {raw : RawScenario} {scenario : StateTransition.Scenario}
    (reads : readScenario name raw = .ok scenario) :
    scenario.name = name ∧ ∃ expected, readExpectations raw.after = .ok expected ∧
      Expects scenario expected := by
  simp only [readScenario, bind_eq_ok] at reads
  obtain ⟨range, _, environment, _, before, _, draft, _, expected, readsAfter, same⟩ := reads
  cases same
  exact ⟨rfl, expected, readsAfter, fun _ _ _ planned => FixtureBody.expected_of_plan planned⟩

theorem readOff_of_rawScenario {json : Json} {raw : RawScenario} {expected : ExpectedWorld}
    (taken : RawScenario.ofJson? json = some raw)
    (reads : readExpectations raw.after = .ok expected) :
    ReadOff readAddress (States SlotsReadOff) (writtenPost json) expected := by
  simp only [RawScenario.ofJson?, Option.bind_eq_bind, Option.bind_eq_some_iff] at taken
  obtain ⟨fields, known, _, _, _, _, _, _, _, _, _, _, after, givesAfter, same⟩ := taken
  cases same
  have found : fields.find? "post" = json.member? "post" 5 :=
    Json.find?_eq_member? known (by decide) rfl
  rw [writtenPost]
  rcases Json.Fields.defaulted_eq_some found givesAfter with ⟨missing, rfl⟩ | ⟨post, present, taken⟩
  · have empty : (Json.object []).entries? RawExpectation.ofJson? = some [] := rfl
    rw [missing]
    exact readOff_of_expectations empty reads
  · rw [present]
    exact readOff_of_expectations taken reads

variable {text : String} {scenarios : List StateTransition.Scenario}
  {scenario : StateTransition.Scenario}

theorem exists_written (parsed : parse text = .ok scenarios) (listed : scenario ∈ scenarios) :
    ∃ file json raw, Json.ofText? text = some file ∧ LastNamed scenario.name json file.members ∧
      RawScenario.ofJson? json = some raw ∧ readScenario scenario.name raw = .ok scenario := by
  rw [parse] at parsed
  split at parsed
  · cases parsed
  · rename_i records recordsRead
    obtain ⟨file, isFile, entries⟩ := Option.bind_eq_some_iff.mp recordsRead
    obtain ⟨⟨name, raw⟩, inside, reads⟩ :=
      Json.exists_mem_of_forall₂ (forall₂_mapM parsed).flip listed
    obtain ⟨json, last, taken⟩ := (Json.mem_entries_iff entries).mp inside
    obtain ⟨rfl, _⟩ := readScenario_eq_ok reads
    exact ⟨file, json, raw, isFile, last, taken, reads⟩

/-- A scenario of a file expects what the records of its post section state, each at its address,
but of the records that spell one address only the one with the greatest name, and the same goes for
the slots of a record. So nothing is lost of what is spelled once. -/
theorem expectations_kept_unless_respelled (parsed : parse text = .ok scenarios)
    (listed : scenario ∈ scenarios) :
    ∃ file json expected, Json.ofText? text = some file ∧
      LastNamed scenario.name json file.members ∧ Expects scenario expected ∧
      ReadOff readAddress (States SlotsReadOff) (writtenPost json) expected ∧
      KeepsSole readAddress (States SlotsKept) (writtenPost json) expected := by
  obtain ⟨file, json, raw, isFile, last, taken, reads⟩ := exists_written parsed listed
  obtain ⟨_, expected, readsAfter, expects⟩ := readScenario_eq_ok reads
  have readOff := readOff_of_rawScenario taken readsAfter
  refine ⟨file, json, expected, isFile, last, expects, readOff, ?_⟩
  exact (readOff.imp fun _ _ => States.kept).keepsSole

def respelled : String :=
  "\x7b\"respelled\": \x7b
     \"pre\": \x7b
       \"0xa94f5374fce5edbc8e2a8697c15331677e6ebf0b\": \x7b\"balance\": \"1000000\"\x7d,
       \"0x00000000000000000000000000000000000000ab\": \x7b\"balance\": \"10\"\x7d\x7d,
     \"transaction\": \x7b
       \"to\": \"0x0000000000000000000000000000000000002000\", \"gas_limit\": 21000,
       \"sender\": \"0xa94f5374fce5edbc8e2a8697c15331677e6ebf0b\",
       \"secret_key\": \"0x45a915e4d060149eb4365960e6a7a45f334393093061116b197e3240065ff2d8\"\x7d,
     \"post\": \x7b
       \"0x00000000000000000000000000000000000000AB\": \x7b\"balance\": \"99\"\x7d,
       \"0x00000000000000000000000000000000000000ab\": \x7b\"nonce\": 0\x7d,
       \"0x00000000000000000000000000000000000000cd\": \x7b\"absent\": true\x7d\x7d\x7d\x7d"

def respelledName : String := "0x00000000000000000000000000000000000000AB"

def soleExpected? (text : String) : Option ExpectedWorld :=
  match parse text with
  | .ok [scenario] => (scenario.plan (Mainnet.rules .london) 1).toOption.map Plan.expected
  | _ => none

def statedBalances (scenario : Json) : List (String × Option RawQuantity) :=
  (writtenPost scenario).map fun record =>
    (record.1, (record.2.given? "balance" 1).bind RawQuantity.ofJson?)

set_option maxRecDepth 4000 in
theorem soleExpected?_respelled : soleExpected? respelled = some (SortedMap.ofList
    [(Address.ofNat 0xab, .present { nonce := some 0 }), (Address.ofNat 0xcd, .absent)]) := by
  -- the literal is its list of characters: to decode it from bytes would be most of the work
  have written : respelled.toList = _ := String.toList_ofList
  rw [soleExpected?, Mainnet.rules_eq_readOff, parse, readRecords?, Json.ofText?, written]
  decide +kernel

set_option maxRecDepth 4000 in
theorem statedBalances_respelled :
    (Json.ofText? respelled).map (fun file => file.members.map fun member => statedBalances member.2) =
      some [[(respelledName, some (.text "99")),
        ("0x00000000000000000000000000000000000000ab", none),
        ("0x00000000000000000000000000000000000000cd", none)]] := by
  have written : respelled.toList = _ := String.toList_ofList
  rw [Json.ofText?, written]
  decide +kernel

theorem exists_plan_respelled : ∃ scenario plan, parse respelled = .ok [scenario] ∧
    scenario.plan (Mainnet.rules .london) 1 = .ok plan ∧
    plan.expected = SortedMap.ofList
      [(Address.ofNat 0xab, .present { nonce := some 0 }), (Address.ofNat 0xcd, .absent)] := by
  have expects := soleExpected?_respelled
  rw [soleExpected?] at expects
  split at expects
  · rename_i scenario parsed
    obtain ⟨plan, planned, expected⟩ := Option.map_eq_some_iff.mp expects
    exact ⟨scenario, plan, parsed, eq_ok_of_toOption planned, expected⟩
  · cases expects

theorem expectations_kept_respelled : ∃ scenario, parse respelled = .ok [scenario] ∧
    ∃ file json expected, Json.ofText? respelled = some file ∧
      LastNamed scenario.name json file.members ∧ Expects scenario expected ∧
      ReadOff readAddress (States SlotsReadOff) (writtenPost json) expected ∧
      KeepsSole readAddress (States SlotsKept) (writtenPost json) expected := by
  obtain ⟨scenario, _, parsed, _⟩ := exists_plan_respelled
  exact ⟨scenario, parsed, expectations_kept_unless_respelled parsed List.mem_cons_self⟩

theorem exists_stated_respelled {name : String} {file json : Json}
    (isFile : Json.ofText? respelled = some file) (last : LastNamed name json file.members) :
    ∃ record, (respelledName, record) ∈ writtenPost json ∧
      (record.given? "balance" 1).bind RawQuantity.ofJson? = some (.text "99") := by
  have known := statedBalances_respelled
  rw [isFile, Option.map_some] at known
  have only : statedBalances json ∈ file.members.map fun member => statedBalances member.2 :=
    List.mem_map.mpr ⟨(name, json), last.mem, rfl⟩
  rw [Option.some.inj known, List.mem_singleton] at only
  have first : (respelledName, some (.text "99")) ∈ statedBalances json := by
    rw [only]
    exact List.mem_cons_self
  obtain ⟨⟨written, record⟩, member, same⟩ := List.mem_map.mp first
  obtain ⟨rfl, stated⟩ := Prod.mk.inj same
  exact ⟨record, member, stated⟩

/-- The file states a balance of 99, and the scenario does not expect it. -/
theorem respelled_record_lost : ∃ scenario plan file json,
    parse respelled = .ok [scenario] ∧ scenario.plan (Mainnet.rules .london) 1 = .ok plan ∧
    Json.ofText? respelled = some file ∧ LastNamed scenario.name json file.members ∧
    ¬ KeepsAll readAddress (States fun _ _ => True) (writtenPost json) plan.expected := by
  obtain ⟨scenario, plan, parsed, planned, expected⟩ := exists_plan_respelled
  obtain ⟨file, json, _, isFile, last, _, _⟩ := exists_written parsed List.mem_cons_self
  refine ⟨scenario, plan, file, json, parsed, planned, isFile, last, fun keeps => ?_⟩
  obtain ⟨record, member, stated⟩ := exists_stated_respelled isFile last
  obtain ⟨address, expectation, spells, held, states⟩ := keeps _ record member
  have spelled : readAddress respelledName = .ok (Address.ofNat 0xab) :=
    eq_ok_of_toOption (by decide +kernel)
  have sameAddress : Address.ofNat 0xab = address := Except.ok.inj (spelled.symm.trans spells)
  have asked : plan.expected.get? (Address.ofNat 0xab) = some (.present { nonce := some 0 }) := by
    rw [expected]
    decide
  have same := asked.symm.trans (sameAddress ▸ held)
  cases same
  cases states with
  | present _ fields =>
    have unasked := fields.balance
    generalize record.given? "balance" 1 = given at unasked stated
    cases unasked
    cases stated

end StateTransition.Fixture
