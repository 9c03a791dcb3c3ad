import StateTransition.Word
import StateTransition.Text.Hex
import StateTransition.Text.Blank

/-!
Numbers and byte strings as texts. A number is decimal, or hexadecimal after `0x` or `0X`; white
space around it does not count, and the empty text is zero.
-/

namespace StateTransition

inductive QuantityError where
  | invalid (text : String)
  | overflow (text : String)
  deriving DecidableEq, Repr

namespace QuantityError

def message : QuantityError → String
  | invalid text => "invalid quantity: " ++ text
  | overflow text => "quantity out of range: " ++ text

end QuantityError

namespace Quantity

def decimalDigit? (c : Char) : Option Nat :=
  if 48 ≤ c.toNat ∧ c.toNat ≤ 57 then some (c.toNat - 48) else none

def hexDigit? (c : Char) : Option Nat :=
  if c.toNat < 128 then Hex.digit? (UInt8.ofNat c.toNat) else none

def ofDigits? (digit? : Char → Option Nat) (base : Nat) (digits : List Char) : Option Nat :=
  digits.foldlM (fun value c => (digit? c).map fun d => value * base + d) 0

def hexPart? (text : List Char) : Option (List Char) :=
  match text with
  | '0' :: 'x' :: rest => some rest
  | '0' :: 'X' :: rest => some rest
  | _ => none

def utf8Length (text : List Char) : Nat := text.foldl (fun length char => length + char.utf8Size) 0

/-- Hexadecimal digits are counted in bytes before they are read, and may carry a second `0x`. -/
def parse (text : String) : Except QuantityError Word :=
  let trimmed := Text.trimChars text.toList
  match hexPart? trimmed with
  | some digits =>
    if 64 < utf8Length digits then .error (.overflow (String.ofList trimmed))
    else
      match ofDigits? hexDigit? 16 (Hex.unmarked digits) with
      | some value => .ok (Word.ofNat value)
      | none => .error (.invalid (String.ofList trimmed))
  | none =>
    match ofDigits? decimalDigit? 10 trimmed with
    | some value =>
      if value < Word.modulus then .ok (Word.ofNat value)
      else .error (.invalid (String.ofList trimmed))
    | none => .error (.invalid (String.ofList trimmed))

def parse64 (text : String) : Except QuantityError UInt64 := do
  let word ← parse text
  if word.toNat < UInt64.size then pure (UInt64.ofNat word.toNat) else throw (.overflow text)

def parseBytes (text : String) : Except QuantityError Bytes :=
  let trimmed := Text.trim text
  match Hex.decodeText trimmed with
  | .ok bytes => .ok bytes
  | .error cause => .error (.invalid (trimmed ++ ": " ++ cause.message))

end Quantity

end StateTransition
