import StateTransition.Address
import StateTransition.Fork.Table
import StateTransition.Hash256
import StateTransition.Json.Fields

namespace StateTransition

def Address.toJson (address : Address) : Json := .text address.hexText

def Address.ofJson? (json : Json) : Option Address := do
  (Address.ofHex? (← json.text?)).toOption

def Hash256.toJson (hash : Hash256) : Json := .text hash.hexText

def Hash256.ofJson? (json : Json) : Option Hash256 := do
  (Hash256.ofHex? (← json.text?)).toOption

def Fork.toJson (fork : Fork) : Json := .text fork.name

def Fork.ofJson? (json : Json) : Option Fork := do Fork.ofName? (← json.text?)

namespace ForkRange

def toJson (range : ForkRange) : Json :=
  .record [("from", range.first.toJson), ("until", Json.ofOption Fork.toJson range.stop)]

def ofJson? (json : Json) : Option ForkRange := do
  let fields ← Json.Fields.of? ["from", "until"] json
  let first ← fields.required "from" Fork.ofJson?
  let stop ← fields.defaulted "until" none (Json.nullable? Fork.ofJson?)
  some ⟨first, stop⟩

end ForkRange

end StateTransition
