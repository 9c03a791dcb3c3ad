import StateTransition.Json
import StateTransition.Rounding

/-!
The size of a number literal, and whether it has a double. The double of a literal is a product: of
the leading digits that fit into 64 bits, and the power of ten that makes up for the other digits
and the exponent. Both factors are rounded before they are multiplied, so a literal may be a little
off, and just below the largest double it counts on which side it ends.
-/

namespace StateTransition.Json

def digitValue (c : Char) : Nat := c.toNat - 48

def digitsValue (digits : List Char) : Nat :=
  digits.foldl (fun value c => value * 10 + digitValue c) 0

structure Decimal where
  leading : Nat
  exponent : Int
  deriving DecidableEq, Repr

namespace Decimal

/-- Appends digits to a number while it fits into 64 bits. The digits that are left come second. -/
def appendDigits (value : Nat) : List Char → Nat × List Char
  | [] => (value, [])
  | c :: rest =>
    let longer := value * 10 + digitValue c
    if longer < UInt64.size then appendDigits longer rest else (value, c :: rest)

/-- Digits before and after the point, and the exponent that is written. A digit before the point
that did not fit counts as zero; the point does not keep later digits from fitting. -/
def ofParts (whole places : List Char) (exponent : Int) : Decimal :=
  let (front, dropped) := appendDigits 0 whole
  let (leading, ignored) := appendDigits front places
  ⟨leading, exponent + dropped.length - (places.length - ignored.length : Nat)⟩

def exponentValue : List Char → Int
  | '-' :: digits => - (digitsValue digits : Int)
  | '+' :: digits => digitsValue digits
  | digits => digitsValue digits

def ofLiteral (literal : String) : Decimal :=
  let unsigned := literal.toList.dropWhile (· == '-')
  let (mantissa, exponent) := unsigned.span fun c => c != 'e' && c != 'E'
  let (whole, fraction) := mantissa.span (· != '.')
  ofParts whole (fraction.drop 1) (exponentValue (exponent.drop 1))

def ofNatural (value : Nat) : Decimal := ofParts (Nat.toDigits 10 value) [] 0

/-- The least number that rounds to no finite double. -/
def doubleBound : Nat := 1 <<< 1024 - 1 <<< 970

def fitsDouble (decimal : Decimal) : Bool :=
  decimal.leading == 0 || decimal.exponent < 0 || (decimal.exponent ≤ 308 &&
    Rounding.significant decimal.leading *
      Rounding.significant (Nat.pow 10 decimal.exponent.toNat) < doubleBound)

end Decimal

end StateTransition.Json
