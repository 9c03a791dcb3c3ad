import StateTransition.Json

/-!
Reading typed values. A record is an object, whose unknown members do not count and whose known
members must not repeat, or an array of its fields in order.
-/

namespace StateTransition.Json

def text? : Json → Option String
  | .string text => text
  | _ => none

def boolean? : Json → Option Bool
  | .boolean value => some value
  | _ => none

def natural? (bound : Nat) : Json → Option Nat
  | .natural value => if value < bound then some value else none
  | _ => none

def natural64? (json : Json) : Option UInt64 := (natural? UInt64.size json).map UInt64.ofNat

def list? {α : Type} (read : Json → Option α) : Json → Option (List α)
  | .array items => items.mapM read
  | _ => none

def nullable? {α : Type} (read : Json → Option α) : Json → Option (Option α)
  | .null => some none
  | json => (read json).map some

/-- Adds an entry at its place in the order of names, or replaces the one with its name. -/
def putEntry {α : Type} (name : String) (value : α) : List (String × α) → List (String × α)
  | [] => [(name, value)]
  | entry :: rest =>
    if name < entry.1 then (name, value) :: entry :: rest
    else if name = entry.1 then (name, value) :: rest
    else entry :: putEntry name value rest

def ofMember? {α : Type} (read : Json → Option α) (member : JsonText × Json) :
    Option (String × α) := do
  let name ← member.1
  let value ← read member.2
  some (name, value)

/-- The entries of an object in the order of their names; of entries with one name the last
counts. -/
def entries? {α : Type} (read : Json → Option α) : Json → Option (List (String × α))
  | .object members => do
    let entries ← members.mapM (ofMember? read)
    some (entries.foldl (fun sorted entry => putEntry entry.1 entry.2 sorted) [])
  | _ => none

structure Fields where
  positional : Bool
  present : List (String × Json)

namespace Fields

def named? (member : JsonText × Json) : Option (String × Json) :=
  member.1.map fun name => (name, member.2)

def of? (names : List String) : Json → Option Fields
  | .object members => do
    let named ← members.mapM named?
    let known := named.filter fun member => names.contains member.1
    if (known.map Prod.fst).Nodup then some ⟨false, known⟩ else none
  | .array items => if items.length ≤ names.length then some ⟨true, names.zip items⟩ else none
  | _ => none

variable {α : Type}

def find? (fields : Fields) (name : String) : Option Json := fields.present.lookup name

def required (fields : Fields) (name : String) (read : Json → Option α) : Option α := do
  read (← fields.find? name)

def defaulted (fields : Fields) (name : String) (absent : α) (read : Json → Option α) : Option α :=
  match fields.find? name with
  | some json => read json
  | none => some absent

def optional (fields : Fields) (name : String) (read : Json → Option α) : Option (Option α) :=
  match fields.find? name with
  | some json => nullable? read json
  | none => if fields.positional then none else some none

end Fields

end StateTransition.Json
