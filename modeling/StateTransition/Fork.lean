import StateTransition.SortedMap
import StateTransition.Text.Blank

namespace StateTransition

inductive Fork where
  | frontier
  | homestead
  | byzantium
  | constantinople
  | constantinopleFix
  | istanbul
  | berlin
  | london
  | paris
  | shanghai
  | cancun
  deriving DecidableEq, Repr, Inhabited

namespace Fork

def all : List Fork :=
  [frontier, homestead, byzantium, constantinople, constantinopleFix, istanbul, berlin, london,
   paris, shanghai, cancun]

def latest : Fork := cancun

def index : Fork → Nat
  | frontier => 0
  | homestead => 1
  | byzantium => 2
  | constantinople => 3
  | constantinopleFix => 4
  | istanbul => 5
  | berlin => 6
  | london => 7
  | paris => 8
  | shanghai => 9
  | cancun => 10

theorem all_getElem?_index (fork : Fork) : all[fork.index]? = some fork := by
  cases fork <;> rfl

theorem index_injective {a b : Fork} (same : a.index = b.index) : a = b := by
  have := all_getElem?_index a
  rw [same, all_getElem?_index] at this
  exact (Option.some.inj this).symm

instance : Key Fork := ⟨index, index_injective⟩

instance : LE Fork := ⟨fun a b => a.index ≤ b.index⟩
instance : LT Fork := ⟨fun a b => a.index < b.index⟩
instance (a b : Fork) : Decidable (a ≤ b) := inferInstanceAs (Decidable (a.index ≤ b.index))
instance (a b : Fork) : Decidable (a < b) := inferInstanceAs (Decidable (a.index < b.index))

def name : Fork → String
  | frontier => "Frontier"
  | homestead => "Homestead"
  | byzantium => "Byzantium"
  | constantinople => "Constantinople"
  | constantinopleFix => "ConstantinopleFix"
  | istanbul => "Istanbul"
  | berlin => "Berlin"
  | london => "London"
  | paris => "Paris"
  | shanghai => "Shanghai"
  | cancun => "Cancun"

def predecessor? (fork : Fork) : Option Fork :=
  match fork.index with
  | 0 => none
  | before + 1 => all[before]?

def successor? (fork : Fork) : Option Fork := all[fork.index + 1]?

def alias? (text : String) : Option Fork :=
  if text = "Petersburg" then some constantinopleFix
  else if text = "Merge" then some paris
  else none

def ofName? (text : String) : Option Fork :=
  let trimmed := Text.trim text
  (all.find? fun fork => fork.name = trimmed).or (alias? trimmed)

end Fork

/-- The forks from `first` up to `stop`, which is left out; without `stop` the range is open. -/
structure ForkRange where
  first : Fork
  stop : Option Fork
  deriving DecidableEq, Repr

namespace ForkRange

def starting (first : Fork) : ForkRange := ⟨first, none⟩

def every : ForkRange := starting .frontier

instance : Inhabited ForkRange := ⟨every⟩

def contains (range : ForkRange) (fork : Fork) : Bool :=
  range.first ≤ fork && range.stop.all fun stop => fork < stop

def forks (range : ForkRange) : List Fork := Fork.all.filter range.contains

def text (range : ForkRange) : String :=
  match range.stop with
  | some stop => "[" ++ range.first.name ++ ", " ++ stop.name ++ ")"
  | none => "[" ++ range.first.name ++ ", ..)"

end ForkRange

end StateTransition
