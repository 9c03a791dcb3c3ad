import StateTransition.Bytes
import StateTransition.Text.CharLiteral

namespace StateTransition

inductive HexError where
  | oddLength
  | badDigit (byte : UInt8) (position : Nat)
  deriving DecidableEq, Repr

namespace HexError

def message : HexError → String
  | oddLength => "Odd number of digits"
  | badDigit byte position =>
    "Invalid character " ++ Text.charLiteral (Char.ofNat byte.toNat) ++
      " at position " ++ toString position

end HexError

namespace Hex

def digit? (byte : UInt8) : Option Nat :=
  let code := byte.toNat
  if 48 ≤ code ∧ code ≤ 57 then some (code - 48)
  else if 97 ≤ code ∧ code ≤ 102 then some (code - 87)
  else if 65 ≤ code ∧ code ≤ 70 then some (code - 55)
  else none

def digitChar (value : Nat) : Char :=
  if value < 10 then Char.ofNat (48 + value) else Char.ofNat (87 + value)

def byteChars (byte : UInt8) : List Char :=
  [digitChar (byte.toNat / 16), digitChar (byte.toNat % 16)]

def encode (bytes : Bytes) : String := String.ofList (bytes.flatMap byteChars)

def encodeMarked (bytes : Bytes) : String := "0x" ++ encode bytes

def decodePairs : Bytes → Nat → Bytes → Except HexError Bytes
  | high :: low :: rest, position, done =>
    match digit? high, digit? low with
    | some h, some l => decodePairs rest (position + 2) (UInt8.ofNat (16 * h + l) :: done)
    | none, _ => .error (.badDigit high position)
    | some _, none => .error (.badDigit low (position + 1))
  | _, _, done => .ok done.reverse

/-- Reads digits two by two. An odd number of bytes is refused before any digit is looked at. -/
def decode (digits : Bytes) : Except HexError Bytes :=
  if digits.length % 2 = 1 then .error .oddLength else decodePairs digits 0 []

def unmarked (text : List Char) : List Char :=
  match text with
  | '0' :: 'x' :: rest => rest
  | other => other

def decodeText (text : String) : Except HexError Bytes :=
  decode ((unmarked text.toList).flatMap String.utf8EncodeChar)

end Hex

end StateTransition
