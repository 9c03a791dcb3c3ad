/-!
JSON values as they are written: the members of an object keep their order and may repeat a key, and
a number keeps the form it has in the text.
-/

namespace StateTransition

/-- The text of a string literal; nothing where an escape names half of a surrogate pair. -/
abbrev JsonText := Option String

inductive Json where
  | null
  | boolean (value : Bool)
  | natural (value : Nat)
  | number (literal : String)
  | string (text : JsonText)
  | array (items : List Json)
  | object (members : List (JsonText × Json))
  deriving Repr, Inhabited

namespace Json

def text (content : String) : Json := .string (some content)

def ofOption {α : Type} (encode : α → Json) : Option α → Json
  | some value => encode value
  | none => .null

def ofInt (value : Int) : Json :=
  match value with
  | .ofNat size => .natural size
  | .negSucc size => .number ("-" ++ toString (size + 1))

def ofList {α : Type} (encode : α → Json) (values : List α) : Json := .array (values.map encode)

def record (fields : List (String × Json)) : Json :=
  .object (fields.map fun (name, value) => (some name, value))

end Json

end StateTransition
