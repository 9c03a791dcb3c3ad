namespace StateTransition

/-- `base ^ exponent` modulo `modulus`, for exponents below `2 ^ bits` and moduli above one. -/
def powMod (modulus base : Nat) : Nat → Nat → Nat
  | 0, _ => 1
  | bits + 1, exponent =>
    let root := powMod modulus base bits (exponent / 2)
    let square := root * root % modulus
    if exponent % 2 = 1 then square * base % modulus else square

end StateTransition
