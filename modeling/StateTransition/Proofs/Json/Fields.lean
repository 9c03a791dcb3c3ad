import Mathlib.Data.List.Forall2
import StateTransition.Json.Fields

namespace StateTransition.Json

theorem exists_mem_of_forall₂ {α β : Type} {related : α → β → Prop} {xs : List α} {ys : List β}
    (alike : List.Forall₂ related xs ys) {x : α} (member : x ∈ xs) : ∃ y ∈ ys, related x y := by
  induction alike with
  | nil => cases member
  | cons first _ ih =>
    rcases List.mem_cons.mp member with rfl | later
    · exact ⟨_, List.mem_cons_self, first⟩
    · obtain ⟨y, inside, found⟩ := ih later
      exact ⟨y, List.mem_cons_of_mem _ inside, found⟩

def members : Json → List (String × Json)
  | .object members => members.filterMap Fields.named?
  | _ => []

def member? (name : String) (place : Nat) : Json → Option Json
  | .array items => items[place]?
  | json => json.members.lookup name

def given? (name : String) (place : Nat) (json : Json) : Option Json :=
  match json.member? name place with
  | some .null => none
  | field => field

/-- A value stands last among those with its name. -/
inductive LastNamed {α : Type} (name : String) (value : α) : List (String × α) → Prop
  | here {rest : List (String × α)} (unrepeated : ∀ other ∈ rest, other.1 ≠ name) :
      LastNamed name value ((name, value) :: rest)
  | there {first : String × α} {rest : List (String × α)} (later : LastNamed name value rest) :
      LastNamed name value (first :: rest)

section LastNamed

variable {α : Type} {name : String} {value : α} {first : String × α}
  {before after entries : List (String × α)}

theorem lastNamed_cons : LastNamed name value (first :: entries) ↔
    LastNamed name value entries ∨
      (∀ other ∈ entries, other.1 ≠ name) ∧ first = (name, value) := by
  constructor
  · intro last
    cases last with
    | here unrepeated => exact .inr ⟨unrepeated, rfl⟩
    | there later => exact .inl later
  · rintro (later | ⟨unrepeated, rfl⟩)
    · exact .there later
    · exact .here unrepeated

theorem LastNamed.mem (last : LastNamed name value entries) : (name, value) ∈ entries := by
  induction last with
  | here unrepeated => exact List.mem_cons_self
  | there later ih => exact List.mem_cons_of_mem _ ih

theorem LastNamed.of_split (unrepeated : ∀ other ∈ after, other.1 ≠ name) :
    LastNamed name value (before ++ (name, value) :: after) := by
  induction before with
  | nil => exact .here unrepeated
  | cons head rest ih => exact .there ih

theorem exists_lastNamed (member : (name, value) ∈ entries) :
    ∃ last, LastNamed name last entries := by
  induction entries generalizing value with
  | nil => cases member
  | cons head rest ih =>
    by_cases again : ∃ other ∈ rest, other.1 = name
    · obtain ⟨⟨other, found⟩, inside, rfl⟩ := again
      obtain ⟨last, later⟩ := ih inside
      exact ⟨last, .there later⟩
    · have unrepeated : ∀ other ∈ rest, other.1 ≠ name := by
        intro other inside same
        exact again ⟨other, inside, same⟩
      rcases List.mem_cons.mp member with rfl | inside
      · exact ⟨value, .here unrepeated⟩
      · exact absurd rfl (unrepeated _ inside)

end LastNamed

section Fields

variable {json : Json} {names : List String} {fields : Fields} {name : String} {place : Nat}

theorem mapM_named? {written : List (JsonText × Json)} {named : List (String × Json)}
    (texts : written.mapM Fields.named? = some named) : written.filterMap Fields.named? = named := by
  induction written generalizing named with
  | nil => exact Option.some.inj texts
  | cons first rest ih =>
    simp only [List.mapM_cons, Option.bind_eq_bind, Option.bind_eq_some_iff, Option.pure_def,
      Option.some.injEq] at texts
    obtain ⟨member, text, others, follow, rfl⟩ := texts
    rw [List.filterMap_cons, text, ih follow]

theorem lookup_filter_contains (known : name ∈ names) (named : List (String × Json)) :
    (named.filter fun member => names.contains member.1).lookup name = named.lookup name := by
  induction named with
  | nil => rfl
  | cons first rest ih =>
    obtain ⟨other, value⟩ := first
    by_cases same : name = other
    · rw [List.filter_cons_of_pos (by simp [← same, known])]
      simp [same]
    · have apart : (name == other) = false := beq_false_of_ne same
      rw [List.filter_cons, List.lookup_cons, apart]
      split
      · rw [List.lookup_cons, apart]
        exact ih
      · exact ih

theorem lookup_zip {items : List Json} (distinct : names.Nodup) (here : names[place]? = some name) :
    (names.zip items).lookup name = items[place]? := by
  induction names generalizing items place with
  | nil => cases here
  | cons first rest ih =>
    have parts := List.nodup_cons.mp distinct
    cases items with
    | nil => rfl
    | cons item items =>
      rw [List.zip_cons_cons, List.lookup_cons]
      cases place with
      | zero =>
        have same : first = name := by simpa using here
        simp [same]
      | succ place =>
        have later : rest[place]? = some name := by simpa using here
        have apart : name ≠ first := fun same =>
          parts.1 (same ▸ List.mem_of_getElem? later)
        rw [beq_false_of_ne apart]
        simpa using ih parts.2 later

theorem find?_eq_member? (read : Fields.of? names json = some fields) (distinct : names.Nodup)
    (here : names[place]? = some name) : fields.find? name = json.member? name place := by
  cases json with
  | object written =>
    simp only [Fields.of?, Option.bind_eq_bind, Option.bind_eq_some_iff] at read
    obtain ⟨named, texts, unrepeated⟩ := read
    split at unrepeated
    · cases unrepeated
      rw [member?, members, mapM_named? texts]
      exact lookup_filter_contains (List.mem_of_getElem? here) named
      exact nofun
    · cases unrepeated
  | array items =>
    rw [Fields.of?] at read
    split at read
    · cases read
      exact lookup_zip distinct here
    · cases read
  | _ => cases read

end Fields

section Reading

variable {α : Type} {json : Json} {fields : Fields} {name : String} {place : Nat}
  {read : Json → Option α}

theorem Fields.defaulted_eq_some {absent value : α}
    (found : fields.find? name = json.member? name place)
    (reads : fields.defaulted name absent read = some value) :
    json.member? name place = none ∧ value = absent ∨
      ∃ field, json.member? name place = some field ∧ read field = some value := by
  rw [defaulted, found] at reads
  split at reads
  · rename_i field present
    exact .inr ⟨field, present, reads⟩
  · rename_i missing
    exact .inl ⟨missing, (Option.some.inj reads).symm⟩

theorem Fields.optional_eq_none (found : fields.find? name = json.member? name place)
    (reads : fields.optional name read = some none) : json.given? name place = none := by
  rw [optional, found] at reads
  rw [given?]
  split at reads
  · rename_i field present
    rw [present]
    cases field with
    | null => rfl
    | _ => simp [nullable?] at reads
  · rename_i missing
    rw [missing]

theorem Fields.optional_eq_some {value : α} (found : fields.find? name = json.member? name place)
    (reads : fields.optional name read = some (some value)) :
    ∃ field, json.given? name place = some field ∧ read field = some value := by
  rw [optional, found] at reads
  rw [given?]
  split at reads
  · rename_i field present
    rw [present]
    cases field with
    | null => cases reads
    | _ => simpa [nullable?] using reads
  · split at reads <;> cases reads

end Reading

section Entries

variable {α : Type} {name : String} {value : α} {sorted list : List (String × α)}

theorem mem_cons_iff_of_above {entry : String × α} (above : ∀ other ∈ sorted, name < other.1) :
    entry ∈ (name, value) :: sorted ↔ entry = (name, value) ∨ entry.1 ≠ name ∧ entry ∈ sorted := by
  rw [List.mem_cons]
  refine or_congr_right ⟨fun member => ⟨fun same => ?_, member⟩, And.right⟩
  exact String.lt_irrefl _ (same ▸ above entry member)

theorem mem_putEntry {entry : String × α} (increasing : sorted.Pairwise fun a b => a.1 < b.1) :
    entry ∈ putEntry name value sorted ↔
      entry = (name, value) ∨ entry.1 ≠ name ∧ entry ∈ sorted := by
  induction sorted with
  | nil => simp [putEntry]
  | cons first rest ih =>
    obtain ⟨above, increasing⟩ := List.pairwise_cons.mp increasing
    rw [putEntry]
    split
    · rename_i below
      have all : ∀ other ∈ first :: rest, name < other.1 := by
        intro other member
        rcases List.mem_cons.mp member with rfl | member
        · exact below
        · exact String.lt_trans below (above other member)
      exact mem_cons_iff_of_above all
    · split
      · rename_i same
        rw [mem_cons_iff_of_above (same ▸ above), List.mem_cons]
        refine or_congr_right (and_congr_right fun apart => ?_)
        have other : entry ≠ first := by
          rintro rfl
          exact apart same.symm
        exact (or_iff_right other).symm
      · rename_i different
        rw [List.mem_cons, ih increasing, List.mem_cons]
        constructor
        · rintro (rfl | placed | ⟨apart, member⟩)
          · exact .inr ⟨fun same => different same.symm, .inl rfl⟩
          · exact .inl placed
          · exact .inr ⟨apart, .inr member⟩
        · rintro (placed | ⟨apart, rfl | member⟩)
          · exact .inr (.inl placed)
          · exact .inl rfl
          · exact .inr (.inr ⟨apart, member⟩)

theorem pairwise_putEntry (name : String) (value : α)
    (increasing : sorted.Pairwise fun a b => a.1 < b.1) :
    (putEntry name value sorted).Pairwise fun a b => a.1 < b.1 := by
  induction sorted with
  | nil => exact List.pairwise_singleton _ _
  | cons first rest ih =>
    have parts := List.pairwise_cons.mp increasing
    rw [putEntry]
    split
    · rename_i below
      refine List.pairwise_cons.mpr ⟨fun other member => ?_, increasing⟩
      rcases List.mem_cons.mp member with rfl | member
      · exact below
      · exact String.lt_trans below (parts.1 other member)
    · rename_i reaches
      split
      · rename_i same
        exact List.pairwise_cons.mpr ⟨fun other member => same ▸ parts.1 other member, parts.2⟩
      · rename_i different
        refine List.pairwise_cons.mpr ⟨fun other member => ?_, ih parts.2⟩
        rcases (mem_putEntry parts.2).mp member with rfl | ⟨_, member⟩
        · have atMost : first.1 ≤ name := String.not_lt.mp reaches
          exact String.not_le.mp fun least => different (String.le_antisymm least atMost)
        · exact parts.1 other member

theorem mem_foldl_putEntry (increasing : sorted.Pairwise fun a b => a.1 < b.1) :
    (name, value) ∈ list.foldl (fun sorted entry => putEntry entry.1 entry.2 sorted) sorted ↔
      LastNamed name value list ∨ (∀ other ∈ list, other.1 ≠ name) ∧ (name, value) ∈ sorted := by
  induction list generalizing sorted with
  | nil =>
    constructor
    · intro member
      exact .inr ⟨nofun, member⟩
    · rintro (last | ⟨_, member⟩)
      · cases last
      · exact member
  | cons first rest ih =>
    rw [List.foldl_cons, ih (pairwise_putEntry _ _ increasing), lastNamed_cons,
      mem_putEntry increasing, List.forall_mem_cons]
    constructor
    · rintro (last | ⟨unrepeated, same | ⟨apart, member⟩⟩)
      · exact .inl (.inl last)
      · exact .inl (.inr ⟨unrepeated, same.symm⟩)
      · exact .inr ⟨⟨apart.symm, unrepeated⟩, member⟩
    · rintro ((last | ⟨unrepeated, same⟩) | ⟨⟨apart, unrepeated⟩, member⟩)
      · exact .inl last
      · exact .inr ⟨unrepeated, .inl same.symm⟩
      · exact .inr ⟨unrepeated, .inr ⟨apart.symm, member⟩⟩

theorem pairwise_foldl_putEntry (increasing : sorted.Pairwise fun a b => a.1 < b.1) :
    (list.foldl (fun sorted entry => putEntry entry.1 entry.2 sorted) sorted).Pairwise
      fun a b => a.1 < b.1 := by
  induction list generalizing sorted with
  | nil => exact increasing
  | cons first rest ih => exact ih (pairwise_putEntry _ _ increasing)

variable {json : Json} {read : Json → Option α} {written : List (JsonText × Json)}

theorem ofMember?_eq_some {member : JsonText × Json} {entry : String × α}
    (reads : ofMember? read member = some entry) :
    ∃ field, Fields.named? member = some (entry.1, field) ∧ read field = some entry.2 := by
  obtain ⟨text, field⟩ := member
  simp only [ofMember?, Option.bind_eq_bind, Option.bind_eq_some_iff] at reads
  obtain ⟨name, rfl, value, meaning, same⟩ := reads
  cases same
  exact ⟨field, rfl, meaning⟩

/-- An entry keeps the name of its member and has the value that is read. -/
structure ReadsTo (read : Json → Option α) (member : String × Json) (entry : String × α) :
    Prop where
  name : member.1 = entry.1
  value : read member.2 = some entry.2

theorem forall₂_ofMember? (reads : written.mapM (ofMember? read) = some list) :
    List.Forall₂ (ReadsTo read) (written.filterMap Fields.named?) list := by
  induction written generalizing list with
  | nil =>
    cases reads
    exact .nil
  | cons first rest ih =>
    simp only [List.mapM_cons, Option.bind_eq_bind, Option.bind_eq_some_iff, Option.pure_def,
      Option.some.injEq] at reads
    obtain ⟨entry, firstReads, others, follow, rfl⟩ := reads
    obtain ⟨field, named, meaning⟩ := ofMember?_eq_some firstReads
    rw [List.filterMap_cons, named]
    exact .cons ⟨rfl, meaning⟩ (ih follow)

variable {members : List (String × Json)}

theorem unnamed_iff (alike : List.Forall₂ (ReadsTo read) members list) :
    (∀ other ∈ list, other.1 ≠ name) ↔ ∀ other ∈ members, other.1 ≠ name := by
  induction alike with
  | nil => exact ⟨nofun, nofun⟩
  | cons first _ ih => rw [List.forall_mem_cons, List.forall_mem_cons, ih, first.name]

theorem lastNamed_iff (alike : List.Forall₂ (ReadsTo read) members list) :
    LastNamed name value list ↔
      ∃ field, LastNamed name field members ∧ read field = some value := by
  induction alike with
  | nil =>
    refine ⟨nofun, ?_⟩
    rintro ⟨field, last, _⟩
    cases last
  | @cons member entry members list first alike ih =>
    rw [lastNamed_cons, ih, unnamed_iff alike]
    constructor
    · rintro (⟨field, later, reads⟩ | ⟨unrepeated, rfl⟩)
      · exact ⟨field, .there later, reads⟩
      · refine ⟨member.2, lastNamed_cons.mpr (.inr ⟨unrepeated, ?_⟩), first.value⟩
        exact Prod.ext first.name rfl
    · rintro ⟨field, last, reads⟩
      rcases lastNamed_cons.mp last with later | ⟨unrepeated, rfl⟩
      · exact .inl ⟨field, later, reads⟩
      · refine .inr ⟨unrepeated, Prod.ext first.name.symm ?_⟩
        exact Option.some.inj (first.value.symm.trans reads)

theorem entries?_eq_some (reads : json.entries? read = some list) :
    ∃ entries, List.Forall₂ (ReadsTo read) json.members entries ∧
      list = entries.foldl (fun sorted entry => putEntry entry.1 entry.2 sorted) [] := by
  cases json with
  | object written =>
    simp only [entries?, Option.bind_eq_bind, Option.bind_eq_some_iff] at reads
    obtain ⟨entries, each, same⟩ := reads
    exact ⟨entries, forall₂_ofMember? each, (Option.some.inj same).symm⟩
  | _ => cases reads

theorem mem_entries_iff (reads : json.entries? read = some list) :
    (name, value) ∈ list ↔ ∃ field, LastNamed name field json.members ∧ read field = some value := by
  obtain ⟨entries, alike, rfl⟩ := entries?_eq_some reads
  rw [mem_foldl_putEntry List.Pairwise.nil, lastNamed_iff alike]
  simp

theorem pairwise_entries (reads : json.entries? read = some list) :
    list.Pairwise fun a b => a.1 < b.1 := by
  obtain ⟨entries, _, rfl⟩ := entries?_eq_some reads
  exact pairwise_foldl_putEntry List.Pairwise.nil

theorem exists_value_of_mem {field : Json} (reads : json.entries? read = some list)
    (member : (name, field) ∈ json.members) : ∃ value, read field = some value := by
  obtain ⟨entries, alike, _⟩ := entries?_eq_some reads
  obtain ⟨entry, _, each⟩ := exists_mem_of_forall₂ alike member
  exact ⟨entry.2, each.value⟩

end Entries

end StateTransition.Json
