import StateTransition.Json.Decimal

/-!
Values that are taken in as a whole before they are looked at: unlike a value that is skipped, every
string inside must have a text, every number must have a double, and nesting counts.
-/

namespace StateTransition.Json

mutual

def depth : Json → Nat
  | .array items => depthOfAll items + 1
  | .object members => depthOfMembers members + 1
  | _ => 0

def depthOfAll : List Json → Nat
  | [] => 0
  | item :: rest => max (depth item) (depthOfAll rest)

def depthOfMembers : List (JsonText × Json) → Nat
  | [] => 0
  | (_, value) :: rest => max (depth value) (depthOfMembers rest)

end

mutual

def isWhole : Json → Bool
  | .natural value => (Decimal.ofNatural value).fitsDouble
  | .number literal => (Decimal.ofLiteral literal).fitsDouble
  | .string text => text.isSome
  | .array items => allWhole items
  | .object members => membersWhole members
  | _ => true

def allWhole : List Json → Bool
  | [] => true
  | item :: rest => isWhole item && allWhole rest

def membersWhole : List (JsonText × Json) → Bool
  | [] => true
  | (key, value) :: rest => key.isSome && isWhole value && membersWhole rest

end

end StateTransition.Json
