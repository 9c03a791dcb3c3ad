import StateTransition.Rounding

/-!
Shares in per cent with two decimal places. The share and its hundredfold are both rounded to 53
significant bits first, as binary floating point does, and ties go to the even neighbour.
-/

namespace StateTransition.Percentage

open Rounding

structure Dyadic where
  mantissa : Nat
  scale : Nat
  deriving DecidableEq, Repr

namespace Dyadic

/-- The scale at which a quotient below `2 ^ 52` has 53 bits in front of the point. -/
def scaleFor (numerator denominator : Nat) : Nat :=
  let guess := 52 + denominator.log2 - numerator.log2
  if numerator <<< guess < denominator <<< 52 then guess + 1 else guess

/-- The nearest number with 53 significant bits; the quotient is below `2 ^ 52`. -/
def ofRatio (numerator denominator : Nat) : Dyadic :=
  let scale := scaleFor numerator denominator
  ⟨roundDiv (numerator <<< scale) denominator, scale⟩

end Dyadic

def hundredths (part whole : Nat) : Nat :=
  if whole = 0 then 10000
  else if part = 0 then 0
  else
    let share := Dyadic.ofRatio part whole
    let percent := Dyadic.ofRatio (100 * share.mantissa) (1 <<< share.scale)
    roundDiv (100 * percent.mantissa) (1 <<< percent.scale)

def text (part whole : Nat) : String :=
  let value := hundredths part whole
  let places := toString (value % 100)
  toString (value / 100) ++ "." ++ (if value % 100 < 10 then "0" ++ places else places)

end StateTransition.Percentage
