import StateTransition.Bytes

/-!
Recursive length prefix encoding. An item is a byte string or a list of items; each is written
behind a header that gives its kind and length, except that a byte below 128 stands for itself.
-/

namespace StateTransition.Rlp

inductive Item where
  | data (bytes : Bytes)
  | list (items : List Item)
  deriving Repr

/-- Lengths up to 55 fit into the first byte; longer ones follow it in as few bytes as they need. -/
def header (base : Nat) (length : Nat) : Bytes :=
  if length ≤ 55 then [UInt8.ofNat (base + length)]
  else
    let digits := Bytes.minimal length
    UInt8.ofNat (base + 55 + digits.length) :: digits

def encodeData (bytes : Bytes) : Bytes :=
  match bytes with
  | [byte] => if byte < 128 then [byte] else header 128 1 ++ [byte]
  | _ => header 128 bytes.length ++ bytes

mutual

def Item.encode : Item → Bytes
  | .data bytes => encodeData bytes
  | .list items =>
    let payload := Item.encodeAll items
    header 192 payload.length ++ payload

def Item.encodeAll : List Item → Bytes
  | [] => []
  | item :: rest => item.encode ++ Item.encodeAll rest

end

def number (value : Nat) : Item := .data (Bytes.minimal value)

end StateTransition.Rlp
