import StateTransition.Fork
import StateTransition.Fork.Param

/-!
Parameter tables in layers, one for each fork that assigns values. A fork sees a parameter as the
nearest layer at or before it defines it; `Rules` is what one fork sees, flattened to one slot for
each parameter, with the prices of opcodes once more by their byte.
-/

namespace StateTransition

inductive ForkError where
  | featureNotActive (fork : Fork) (param : Param)
  | unknownFork (text : String)
  | emptyRange (first stop : Fork)
  deriving DecidableEq, Repr

namespace ForkError

def message : ForkError → String
  | featureNotActive fork param => param.text ++ " is not active at " ++ fork.name
  | unknownFork text => "unknown fork: " ++ text
  | emptyRange first stop => "empty fork range: " ++ first.name ++ " until " ++ stop.name

end ForkError

def Fork.parse (text : String) : Except ForkError Fork :=
  match Fork.ofName? text with
  | some fork => .ok fork
  | none => .error (.unknownFork (Text.trim text))

def ForkRange.between (first stop : Fork) : Except ForkError ForkRange :=
  if stop ≤ first then .error (.emptyRange first stop) else .ok ⟨first, some stop⟩

structure Layer where
  fork : Fork
  values : SortedMap Param UInt64
  deriving DecidableEq, Repr

namespace Layer

def ofList (fork : Fork) (assignments : List (Param × UInt64)) : Layer :=
  ⟨fork, SortedMap.ofList assignments⟩

end Layer

structure ForkTable where
  layers : SortedMap Fork (SortedMap Param UInt64)
  deriving DecidableEq, Repr

namespace ForkTable

def empty : ForkTable := ⟨∅⟩

/-- Values of a layer are added to those its fork already has, and replace them. -/
def addLayer (table : ForkTable) (layer : Layer) : ForkTable :=
  let known := (table.layers.get? layer.fork).getD ∅
  ⟨table.layers.insert layer.fork (known.insertMany layer.values.toList)⟩

def ofLayers (layers : List Layer) : ForkTable := layers.foldl addLayer empty

def forks (table : ForkTable) : List Fork := table.layers.keys

def visible (table : ForkTable) (fork : Fork) : List (Fork × SortedMap Param UInt64) :=
  table.layers.toList.filter fun layer => layer.1 ≤ fork

/-- The value of a parameter and the fork that assigned it, from the nearest layer backwards. -/
def lookupWithOrigin (table : ForkTable) (fork : Fork) (param : Param) :
    Except ForkError (UInt64 × Fork) :=
  let found := (table.visible fork).reverse.findSome? fun layer =>
    (layer.2.get? param).map fun value => (value, layer.1)
  match found with
  | some result => .ok result
  | none => .error (.featureNotActive fork param)

def lookup (table : ForkTable) (fork : Fork) (param : Param) : Except ForkError UInt64 :=
  (table.lookupWithOrigin fork param).map Prod.fst

def activation? (table : ForkTable) (param : Param) : Option Fork :=
  (table.layers.toList.find? fun layer => layer.2.contains param).map Prod.fst

end ForkTable

structure Rules where
  fork : Fork
  values : Vector (Option UInt64) Param.count
  opcodePrices : Vector (Option UInt64) 256

namespace Rules

def value (rules : Rules) (param : Param) : Option UInt64 :=
  rules.values.get ⟨param.rank, param.rank_lt⟩

def get (rules : Rules) (param : Param) : Except ForkError UInt64 :=
  match rules.value param with
  | some value => .ok value
  | none => .error (.featureNotActive rules.fork param)

def amount (rules : Rules) (param : Param) : Nat := ((rules.value param).getD 0).toNat

def defines (rules : Rules) (param : Param) : Bool := (rules.value param).isSome

def isActive (rules : Rules) (param : Param) : Bool := (rules.value param).any (· != 0)

def opcodePrice (rules : Rules) (byte : UInt8) : Option UInt64 :=
  rules.opcodePrices.get ⟨byte.toNat, byte.toNat_lt⟩

def opcodeGas (rules : Rules) (byte : UInt8) : Option Nat :=
  (rules.opcodePrice byte).map UInt64.toNat

def assign (rules : Rules) (param : Param) (value : UInt64) : Rules where
  fork := rules.fork
  values := rules.values.set param.rank (some value) param.rank_lt
  opcodePrices :=
    match param with
    | .opcode byte => rules.opcodePrices.set byte.toNat (some value) byte.toNat_lt
    | _ => rules.opcodePrices

end Rules

/-- What a fork sees of a table: its layers applied one after the other. -/
def ForkTable.rules (table : ForkTable) (fork : Fork) : Rules :=
  let blank : Rules := ⟨fork, Vector.replicate Param.count none, Vector.replicate 256 none⟩
  (table.visible fork).foldl (fun rules layer =>
    layer.2.toList.foldl (fun rules entry => rules.assign entry.1 entry.2) rules) blank

end StateTransition
