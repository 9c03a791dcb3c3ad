import StateTransition.Json.Decimal

namespace StateTransition.Json

def isSpace (c : Char) : Bool := c == ' ' || c == '\t' || c == '\n' || c == '\r'

def skipSpace (text : List Char) : List Char := text.dropWhile isSpace

def isDigit (c : Char) : Bool := 48 ≤ c.toNat && c.toNat ≤ 57

def digits? (text : List Char) : Option (List Char × List Char) :=
  let (digits, rest) := text.span isDigit
  if digits.isEmpty then none else some (digits, rest)

def whole? (text : List Char) : Option (List Char × List Char) :=
  match text with
  | '0' :: rest => some (['0'], rest)
  | _ => digits? text

def fraction? (text : List Char) : Option (List Char × List Char) :=
  match text with
  | '.' :: rest => (digits? rest).map fun (digits, rest) => ('.' :: digits, rest)
  | _ => some ([], text)

def sign (text : List Char) : List Char × List Char :=
  match text with
  | '+' :: rest => (['+'], rest)
  | '-' :: rest => (['-'], rest)
  | _ => ([], text)

def exponentDigits? (mark : Char) (text : List Char) : Option (List Char × List Char) :=
  let (sign, rest) := sign text
  (digits? rest).map fun (digits, rest) => (mark :: sign ++ digits, rest)

def exponent? (text : List Char) : Option (List Char × List Char) :=
  match text with
  | 'e' :: rest => exponentDigits? 'e' rest
  | 'E' :: rest => exponentDigits? 'E' rest
  | _ => some ([], text)

def number? (negative : Bool) (text : List Char) : Option (Json × List Char) := do
  let (whole, rest) ← whole? text
  let (fraction, rest) ← fraction? rest
  let (exponent, rest) ← exponent? rest
  if !negative && fraction.isEmpty && exponent.isEmpty then
    some (.natural (digitsValue whole), rest)
  else
    let sign := if negative then ['-'] else []
    some (.number (String.ofList (sign ++ whole ++ fraction ++ exponent)), rest)

/-- The characters up to the closing quote, escapes as they are, and what follows it. -/
def literal? (done : List Char) : List Char → Option (List Char × List Char)
  | [] => none
  | '"' :: rest => some (done.reverse, rest)
  | '\\' :: c :: rest => literal? (c :: '\\' :: done) rest
  | c :: rest => if c.toNat < 32 then none else literal? (c :: done) rest

inductive Symbol where
  | whole (c : Char)
  | half (unit : Nat)
  deriving Repr

def hexDigit? (c : Char) : Option Nat :=
  let code := c.toNat
  if 48 ≤ code ∧ code ≤ 57 then some (code - 48)
  else if 97 ≤ code ∧ code ≤ 102 then some (code - 87)
  else if 65 ≤ code ∧ code ≤ 70 then some (code - 55)
  else none

def unit? (digits : List Char) : Option Nat :=
  digits.foldlM (fun value c => (hexDigit? c).map fun digit => value * 16 + digit) 0

def isSurrogate (unit : Nat) : Bool := 0xd800 ≤ unit && unit ≤ 0xdfff

def Symbol.ofUnit (unit : Nat) : Symbol :=
  if isSurrogate unit then .half unit else .whole (Char.ofNat unit)

def shortEscape? (letter : Char) : Option Char :=
  match letter with
  | '"' => some '"'
  | '\\' => some '\\'
  | '/' => some '/'
  | 'b' => some (Char.ofNat 8)
  | 'f' => some (Char.ofNat 12)
  | 'n' => some '\n'
  | 'r' => some '\r'
  | 't' => some '\t'
  | _ => none

def symbols? (done : List Symbol) : List Char → Option (List Symbol)
  | [] => some done.reverse
  | '\\' :: 'u' :: a :: b :: c :: d :: rest =>
    match unit? [a, b, c, d] with
    | some unit => symbols? (.ofUnit unit :: done) rest
    | none => none
  | '\\' :: letter :: rest =>
    match shortEscape? letter with
    | some c => symbols? (.whole c :: done) rest
    | none => none
  | c :: rest => symbols? (.whole c :: done) rest

/-- The text of symbols, where a high half has to be followed by a low one. -/
def joinSymbols (done : List Char) : List Symbol → JsonText
  | [] => some (String.ofList done.reverse)
  | .whole c :: rest => joinSymbols (c :: done) rest
  | .half high :: .half low :: rest =>
    if high < 0xdc00 ∧ 0xdc00 ≤ low then
      joinSymbols (Char.ofNat (0x10000 + (high - 0xd800) * 0x400 + (low - 0xdc00)) :: done) rest
    else none
  | .half _ :: _ => none

def string? (text : List Char) : Option (JsonText × List Char) := do
  let (literal, rest) ← literal? [] text
  let symbols ← symbols? [] literal
  some (joinSymbols [] symbols, rest)

def key? (text : List Char) : Option (JsonText × List Char) :=
  match skipSpace text with
  | '"' :: rest => do
    let (key, rest) ← string? rest
    match skipSpace rest with
    | ':' :: rest => some (key, rest)
    | _ => none
  | _ => none

def word? (word : List Char) (value : Json) (text : List Char) : Option (Json × List Char) :=
  if word.isPrefixOf text then some (value, text.drop word.length) else none

mutual

/-- The value that starts a text. Each step of the recursion takes a unit of `fuel`. -/
def value? : (fuel : Nat) → List Char → Option (Json × List Char)
  | 0, _ => none
  | fuel + 1, text =>
    match skipSpace text with
    | '{' :: rest =>
      match skipSpace rest with
      | '}' :: rest => some (.object [], rest)
      | rest => members? fuel [] rest
    | '[' :: rest =>
      match skipSpace rest with
      | ']' :: rest => some (.array [], rest)
      | rest => items? fuel [] rest
    | '"' :: rest => (string? rest).map fun (text, rest) => (.string text, rest)
    | '-' :: rest => number? true rest
    | 'n' :: rest => word? ['u', 'l', 'l'] .null rest
    | 't' :: rest => word? ['r', 'u', 'e'] (.boolean true) rest
    | 'f' :: rest => word? ['a', 'l', 's', 'e'] (.boolean false) rest
    | rest => number? false rest

def items? : (fuel : Nat) → List Json → List Char → Option (Json × List Char)
  | 0, _, _ => none
  | fuel + 1, done, text =>
    match value? fuel text with
    | none => none
    | some (item, rest) =>
      match skipSpace rest with
      | ',' :: rest => items? fuel (item :: done) rest
      | ']' :: rest => some (.array (item :: done).reverse, rest)
      | _ => none

def members? : (fuel : Nat) → List (JsonText × Json) → List Char → Option (Json × List Char)
  | 0, _, _ => none
  | fuel + 1, done, text =>
    match key? text with
    | none => none
    | some (key, rest) =>
      match value? fuel rest with
      | none => none
      | some (value, rest) =>
        match skipSpace rest with
        | ',' :: rest => members? fuel ((key, value) :: done) rest
        | '}' :: rest => some (.object ((key, value) :: done).reverse, rest)
        | _ => none

end

/-- Every value and every comma takes a character, so twice the length is fuel enough. -/
def ofText? (text : String) : Option Json :=
  let characters := text.toList
  match value? (2 * characters.length + 2) characters with
  | some (value, rest) => if (skipSpace rest).isEmpty then some value else none
  | none => none

end StateTransition.Json
