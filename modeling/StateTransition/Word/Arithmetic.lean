import StateTransition.Word
import StateTransition.Power

namespace StateTransition.Word

def div (a b : Word) : Word := if b.isZero then 0#256 else a / b

def rem (a b : Word) : Word := if b.isZero then 0#256 else a % b

def addMod (a b modulus : Word) : Word :=
  if modulus.isZero then 0#256 else ofNat ((a.toNat + b.toNat) % modulus.toNat)

/-- The product before it is reduced may need 512 bits. -/
def mulMod (a b modulus : Word) : Word :=
  if modulus.isZero then 0#256 else ofNat (a.toNat * b.toNat % modulus.toNat)

def power (base exponent : Word) : Word :=
  ofNat (powMod modulus base.toNat exponent.bitLength exponent.toNat)

def byteAt (index word : Word) : Word :=
  if index.toNat < 32 then (word >>> (8 * (31 - index.toNat))) &&& 0xff#256 else 0#256

def shiftLeft (shift value : Word) : Word :=
  if shift.toNat < 256 then value <<< shift.toNat else 0#256

def shiftRight (shift value : Word) : Word :=
  if shift.toNat < 256 then value >>> shift.toNat else 0#256

def isNegative (word : Word) : Bool := word.msb

def magnitude (word : Word) : Word := if word.isNegative then -word else word

/-- Division toward zero; the least word divided by minus one is itself. -/
def signedDiv (a b : Word) : Word :=
  if b.isZero then 0#256
  else
    let quotient := a.magnitude / b.magnitude
    if a.isNegative = b.isNegative then quotient else -quotient

def signedRem (a b : Word) : Word :=
  if b.isZero then 0#256
  else
    let remainder := a.magnitude % b.magnitude
    if a.isNegative then -remainder else remainder

def signedLess (a b : Word) : Bool :=
  if a.isNegative = b.isNegative then a < b else a.isNegative

def signExtend (index word : Word) : Word :=
  if index.toNat < 31 then
    let width := 8 * (index.toNat + 1)
    let mask : Word := ofNat (1 <<< width - 1)
    if word.getLsbD (width - 1) then word ||| ~~~ mask else word &&& mask
  else word

def arithmeticShiftRight (shift value : Word) : Word :=
  if shift.toNat < 256 then
    if value.isNegative then ~~~ (~~~ value >>> shift.toNat) else value >>> shift.toNat
  else if value.isNegative then maximum
  else 0#256

end StateTransition.Word
