namespace StateTransition.Rounding

def roundDiv (numerator denominator : Nat) : Nat :=
  let floor := numerator / denominator
  let twice := 2 * (numerator % denominator)
  if twice < denominator then floor
  else if denominator < twice then floor + 1
  else floor + floor % 2

/-- The nearest number with 53 significant bits, as a double of unlimited range holds it. -/
def significant (value : Nat) : Nat :=
  let unit := 1 <<< (value.log2 - 52)
  roundDiv value unit * unit

end StateTransition.Rounding
