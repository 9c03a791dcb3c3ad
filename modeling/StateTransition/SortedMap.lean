/-!
Finite maps as association lists in the order of their keys. The representation is canonical: two
maps with the same lookups are equal (`SortedMap.ext`), and `toList` lists the entries by key.
-/

namespace StateTransition

/-- Keys are told apart and ordered by a number. -/
class Key (κ : Type) where
  rank : κ → Nat
  rank_injective : ∀ {a b : κ}, rank a = rank b → a = b

def KeysIncrease {κ ν : Type} [Key κ] (entries : List (κ × ν)) : Prop :=
  entries.Pairwise fun a b => Key.rank a.1 < Key.rank b.1

namespace SortedEntries

variable {κ ν : Type} [Key κ]

def find? (key : κ) : List (κ × ν) → Option ν
  | [] => none
  | entry :: rest => if Key.rank entry.1 = Key.rank key then some entry.2 else find? key rest

def insert (key : κ) (value : ν) : List (κ × ν) → List (κ × ν)
  | [] => [(key, value)]
  | entry :: rest =>
    if Key.rank key < Key.rank entry.1 then (key, value) :: entry :: rest
    else if Key.rank key = Key.rank entry.1 then (key, value) :: rest
    else entry :: insert key value rest

def erase (key : κ) : List (κ × ν) → List (κ × ν)
  | [] => []
  | entry :: rest => if Key.rank entry.1 = Key.rank key then rest else entry :: erase key rest

theorem mem_insert {key : κ} {value : ν} {entry : κ × ν} {entries : List (κ × ν)} :
    entry ∈ insert key value entries → entry = (key, value) ∨ entry ∈ entries := by
  induction entries with
  | nil => simp [insert]
  | cons head rest ih =>
    rw [insert]
    split
    · grind
    · split <;> grind

theorem mem_erase {key : κ} {entry : κ × ν} {entries : List (κ × ν)} :
    entry ∈ erase key entries → entry ∈ entries := by
  induction entries with
  | nil => simp [erase]
  | cons head rest ih => rw [erase]; split <;> grind

theorem keysIncrease_insert (key : κ) (value : ν) {entries : List (κ × ν)}
    (sorted : KeysIncrease entries) : KeysIncrease (insert key value entries) := by
  induction entries with
  | nil => simp [insert, KeysIncrease]
  | cons head rest ih =>
    have tail := List.pairwise_cons.1 sorted
    rw [insert]
    split
    · refine List.pairwise_cons.2 ⟨fun entry member => ?_, sorted⟩
      rcases List.mem_cons.1 member with rfl | member
      · assumption
      · exact Nat.lt_trans ‹_› (tail.1 entry member)
    · split
      · refine List.pairwise_cons.2 ⟨fun entry member => ?_, tail.2⟩
        have := tail.1 entry member
        simp only; omega
      · refine List.pairwise_cons.2 ⟨fun entry member => ?_, ih tail.2⟩
        rcases mem_insert member with rfl | member
        · simp only; omega
        · exact tail.1 entry member

theorem keysIncrease_erase (key : κ) {entries : List (κ × ν)} (sorted : KeysIncrease entries) :
    KeysIncrease (erase key entries) := by
  induction entries with
  | nil => simp [erase, KeysIncrease]
  | cons head rest ih =>
    have tail := List.pairwise_cons.1 sorted
    rw [erase]
    split
    · exact tail.2
    · exact List.pairwise_cons.2 ⟨fun entry member => tail.1 entry (mem_erase member), ih tail.2⟩

theorem find?_eq_none {key : κ} {entries : List (κ × ν)}
    (above : ∀ entry ∈ entries, Key.rank key < Key.rank entry.1) : find? key entries = none := by
  induction entries with
  | nil => rfl
  | cons head rest ih =>
    have first := above head (by simp)
    rw [find?, if_neg (by omega)]
    exact ih fun entry member => above entry (by simp [member])

theorem find?_insert (key key' : κ) (value : ν) (entries : List (κ × ν))
    (sorted : KeysIncrease entries) :
    find? key' (insert key value entries) =
      if Key.rank key = Key.rank key' then some value else find? key' entries := by
  induction entries with
  | nil => simp [insert, find?]
  | cons head rest ih =>
    have tail := List.pairwise_cons.1 sorted
    simp only [insert]
    split
    · simp [find?]
    · split
      · simp only [find?]; split <;> simp_all
      · rw [find?, find?, ih tail.2]
        by_cases here : Key.rank head.1 = Key.rank key'
        · rw [if_pos here, if_pos here, if_neg (by omega)]
        · rw [if_neg here, if_neg here]

theorem find?_erase (key key' : κ) (entries : List (κ × ν)) (sorted : KeysIncrease entries) :
    find? key' (erase key entries) =
      if Key.rank key = Key.rank key' then none else find? key' entries := by
  induction entries with
  | nil => simp [erase, find?]
  | cons head rest ih =>
    have tail := List.pairwise_cons.1 sorted
    simp only [erase]
    split
    · rename_i same
      split
      · exact find?_eq_none fun entry member => by have := tail.1 entry member; omega
      · rw [find?, if_neg (by omega)]
    · rw [find?, find?, ih tail.2]
      by_cases here : Key.rank head.1 = Key.rank key'
      · rw [if_pos here, if_pos here, if_neg (by omega)]
      · rw [if_neg here, if_neg here]

theorem eq_of_find?_eq : ∀ {left right : List (κ × ν)}, KeysIncrease left → KeysIncrease right →
    (∀ key, find? key left = find? key right) → left = right := by
  intro left
  induction left with
  | nil =>
    intro right _ _ same
    cases right with
    | nil => rfl
    | cons head rest => have := same head.1; simp [find?] at this
  | cons head rest ih =>
    intro right sortedLeft sortedRight same
    have tailLeft := List.pairwise_cons.1 sortedLeft
    cases right with
    | nil => have := same head.1; simp [find?] at this
    | cons head' rest' =>
      have tailRight := List.pairwise_cons.1 sortedRight
      have atHead := same head.1
      have atHead' := same head'.1
      have ranks : Key.rank head.1 = Key.rank head'.1 := by
        rcases Nat.lt_trichotomy (Key.rank head.1) (Key.rank head'.1) with less | equal | more
        · simp only [find?, if_true] at atHead
          rw [if_neg (by omega), find?_eq_none fun entry member => by
            have := tailRight.1 entry member; omega] at atHead
          simp at atHead
        · exact equal
        · simp only [find?, if_true] at atHead'
          rw [if_neg (by omega), find?_eq_none fun entry member => by
            have := tailLeft.1 entry member; omega] at atHead'
          simp at atHead'
      have keys : head.1 = head'.1 := Key.rank_injective ranks
      have values : head.2 = head'.2 := by simpa [find?, ranks] using atHead
      have rests : rest = rest' := by
        refine ih tailLeft.2 tailRight.2 fun key => ?_
        by_cases here : Key.rank head.1 = Key.rank key
        · rw [find?_eq_none fun entry member => by have := tailLeft.1 entry member; omega,
            find?_eq_none fun entry member => by have := tailRight.1 entry member; omega]
        · have := same key
          rwa [find?, find?, if_neg here, if_neg (by omega)] at this
      rw [show head = head' from Prod.ext keys values, rests]

end SortedEntries

structure SortedMap (κ ν : Type) [Key κ] where
  toList : List (κ × ν)
  sorted : KeysIncrease toList

namespace SortedMap

variable {κ ν : Type} [Key κ]

instance [DecidableEq κ] [DecidableEq ν] : DecidableEq (SortedMap κ ν) := fun a b =>
  if same : a.toList = b.toList then isTrue (by cases a; cases b; cases same; rfl)
  else isFalse fun equal => same (equal ▸ rfl)

instance [Repr κ] [Repr ν] : Repr (SortedMap κ ν) := ⟨fun map _ => repr map.toList⟩

def empty : SortedMap κ ν := ⟨[], List.Pairwise.nil⟩

instance : EmptyCollection (SortedMap κ ν) := ⟨empty⟩
instance : Inhabited (SortedMap κ ν) := ⟨empty⟩

def get? (map : SortedMap κ ν) (key : κ) : Option ν := SortedEntries.find? key map.toList

def contains (map : SortedMap κ ν) (key : κ) : Bool := (map.get? key).isSome

def insert (map : SortedMap κ ν) (key : κ) (value : ν) : SortedMap κ ν :=
  ⟨SortedEntries.insert key value map.toList,
    SortedEntries.keysIncrease_insert key value map.sorted⟩

def erase (map : SortedMap κ ν) (key : κ) : SortedMap κ ν :=
  ⟨SortedEntries.erase key map.toList, SortedEntries.keysIncrease_erase key map.sorted⟩

def size (map : SortedMap κ ν) : Nat := map.toList.length

def isEmpty (map : SortedMap κ ν) : Bool := map.toList.isEmpty

def keys (map : SortedMap κ ν) : List κ := map.toList.map Prod.fst

/-- Later entries replace earlier ones with the same key. -/
def insertMany (map : SortedMap κ ν) (entries : List (κ × ν)) : SortedMap κ ν :=
  entries.foldl (fun map entry => map.insert entry.1 entry.2) map

def ofList (entries : List (κ × ν)) : SortedMap κ ν := empty.insertMany entries

@[simp] theorem get?_empty (key : κ) : (empty : SortedMap κ ν).get? key = none := rfl

theorem get?_insert (map : SortedMap κ ν) (key key' : κ) (value : ν) :
    (map.insert key value).get? key' =
      if Key.rank key = Key.rank key' then some value else map.get? key' :=
  SortedEntries.find?_insert key key' value map.toList map.sorted

theorem get?_erase (map : SortedMap κ ν) (key key' : κ) :
    (map.erase key).get? key' =
      if Key.rank key = Key.rank key' then none else map.get? key' :=
  SortedEntries.find?_erase key key' map.toList map.sorted

@[simp] theorem get?_insert_self (map : SortedMap κ ν) (key : κ) (value : ν) :
    (map.insert key value).get? key = some value := by simp [get?_insert]

@[simp] theorem get?_erase_self (map : SortedMap κ ν) (key : κ) :
    (map.erase key).get? key = none := by simp [get?_erase]

@[ext] theorem ext {left right : SortedMap κ ν} (same : ∀ key, left.get? key = right.get? key) :
    left = right := by
  have lists := SortedEntries.eq_of_find?_eq left.sorted right.sorted same
  cases left; cases right; cases lists; rfl

theorem insert_insert (map : SortedMap κ ν) (key : κ) (first second : ν) :
    (map.insert key first).insert key second = map.insert key second := by
  ext1 other
  simp only [get?_insert]
  split <;> rfl

theorem insert_of_get? {map : SortedMap κ ν} {key : κ} {value : ν}
    (held : map.get? key = some value) : map.insert key value = map := by
  ext1 other
  rw [get?_insert]
  split
  · rename_i same
    rw [← Key.rank_injective same, held]
  · rfl

theorem erase_insert {map : SortedMap κ ν} {key : κ} (value : ν)
    (absent : map.get? key = none) : (map.insert key value).erase key = map := by
  ext1 other
  rw [get?_erase, get?_insert]
  split
  · rename_i same
    rw [← Key.rank_injective same, absent]
  · rfl

end SortedMap

abbrev SortedSet (κ : Type) [Key κ] := SortedMap κ Unit

namespace SortedSet

variable {κ : Type} [Key κ]

def add (set : SortedSet κ) (key : κ) : SortedSet κ := SortedMap.insert set key ()

def ofKeys (keys : List κ) : SortedSet κ := SortedMap.ofList (keys.map fun key => (key, ()))

end SortedSet

end StateTransition
