import StateTransition.Json

namespace StateTransition.Json

def unicodeEscape (code : Nat) : String :=
  let digits := Nat.toDigits 16 code
  "\\u" ++ String.ofList (List.replicate (4 - digits.length) '0' ++ digits)

/-- Quotes, backslashes and control characters are escaped, nothing else is. -/
def escape (c : Char) : String :=
  if c = '"' then "\\\""
  else if c = '\\' then "\\\\"
  else if c = '\n' then "\\n"
  else if c = '\r' then "\\r"
  else if c = '\t' then "\\t"
  else if c.toNat = 8 then "\\b"
  else if c.toNat = 12 then "\\f"
  else if c.toNat < 32 then unicodeEscape c.toNat
  else c.toString

def quoted (text : String) : String :=
  "\"" ++ text.toList.foldl (fun done c => done ++ escape c) "" ++ "\""

def quotedText (text : JsonText) : String := quoted (text.getD "")

mutual

def compact : Json → String
  | .null => "null"
  | .boolean value => if value then "true" else "false"
  | .natural value => toString value
  | .number literal => literal
  | .string text => quotedText text
  | .array items => "[" ++ compactItems items ++ "]"
  | .object members => "\x7b" ++ compactMembers members ++ "\x7d"

def compactItems : List Json → String
  | [] => ""
  | [item] => compact item
  | item :: rest => compact item ++ "," ++ compactItems rest

def compactMembers : List (JsonText × Json) → String
  | [] => ""
  | [(key, value)] => quotedText key ++ ":" ++ compact value
  | (key, value) :: rest => quotedText key ++ ":" ++ compact value ++ "," ++ compactMembers rest

end

def newLine (level : Nat) : String := "\n" ++ String.ofList (List.replicate (2 * level) ' ')

mutual

/-- The indented form at a level; empty arrays and objects stay on one line. -/
def pretty (level : Nat) : Json → String
  | .array [] => "[]"
  | .array items => "[" ++ prettyItems (level + 1) items ++ newLine level ++ "]"
  | .object [] => "\x7b\x7d"
  | .object members => "\x7b" ++ prettyMembers (level + 1) members ++ newLine level ++ "\x7d"
  | other => compact other

def prettyItems (level : Nat) : List Json → String
  | [] => ""
  | [item] => newLine level ++ pretty level item
  | item :: rest => newLine level ++ pretty level item ++ "," ++ prettyItems level rest

def prettyMembers (level : Nat) : List (JsonText × Json) → String
  | [] => ""
  | [(key, value)] => newLine level ++ quotedText key ++ ": " ++ pretty level value
  | (key, value) :: rest =>
    newLine level ++ quotedText key ++ ": " ++ pretty level value ++ "," ++
      prettyMembers level rest

end

end StateTransition.Json
