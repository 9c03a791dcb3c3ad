import StateTransition.Power

/-!
The curve `y ^ 2 = x ^ 3 + 7` over the integers modulo `fieldPrime`. Points are computed with in
Jacobian coordinates: `(x, y, z)` stands for `(x / z ^ 2, y / z ^ 3)`, and `z = 0` for the neutral
point.
-/

namespace StateTransition.Secp256k1

def fieldPrime : Nat := 0xfffffffffffffffffffffffffffffffffffffffffffffffffffffffefffffc2f

def order : Nat := 0xfffffffffffffffffffffffffffffffebaaedce6af48a03bbfd25e8cd0364141

/-- The inverse modulo a prime below `2 ^ 256`. -/
def inverseMod (prime value : Nat) : Nat := powMod prime value 256 (prime - 2)

def add (a b : Nat) : Nat := (a + b) % fieldPrime

def sub (a b : Nat) : Nat := (a + (fieldPrime - b)) % fieldPrime

def mul (a b : Nat) : Nat := a * b % fieldPrime

structure Point where
  x : Nat
  y : Nat
  z : Nat
  deriving Repr

namespace Point

def neutral : Point := ⟨1, 1, 0⟩

def ofAffine (x y : Nat) : Point := ⟨x, y, 1⟩

def generator : Point :=
  ofAffine 0x79be667ef9dcbbac55a06295ce870b07029bfcdb2dce28d959f2815b16f81798
    0x483ada7726a3c4655da4fbfc0e1108a8fd17b448a68554199c47d08ffb10d4b8

def double (point : Point) : Point :=
  if point.z = 0 ∨ point.y = 0 then neutral
  else
    let ySquared := mul point.y point.y
    let s := mul 4 (mul point.x ySquared)
    let m := mul 3 (mul point.x point.x)
    let x := sub (mul m m) (add s s)
    let y := sub (mul m (sub s x)) (mul 8 (mul ySquared ySquared))
    ⟨x, y, mul 2 (mul point.y point.z)⟩

def plus (left right : Point) : Point :=
  if left.z = 0 then right
  else if right.z = 0 then left
  else
    let leftZ2 := mul left.z left.z
    let rightZ2 := mul right.z right.z
    let u1 := mul left.x rightZ2
    let u2 := mul right.x leftZ2
    let s1 := mul left.y (mul right.z rightZ2)
    let s2 := mul right.y (mul left.z leftZ2)
    if u1 = u2 then if s1 = s2 then double left else neutral
    else
      let h := sub u2 u1
      let r := sub s2 s1
      let h2 := mul h h
      let h3 := mul h h2
      let v := mul u1 h2
      let x := sub (sub (mul r r) h3) (add v v)
      let y := sub (mul r (sub v x)) (mul s1 h3)
      ⟨x, y, mul h (mul left.z right.z)⟩

def timesBits (point : Point) : Nat → Nat → Point
  | 0, _ => neutral
  | bits + 1, scalar =>
    let twice := (timesBits point bits (scalar / 2)).double
    if scalar % 2 = 1 then twice.plus point else twice

def times (point : Point) (scalar : Nat) : Point := point.timesBits 256 scalar

def toAffine? (point : Point) : Option (Nat × Nat) :=
  if point.z = 0 then none
  else
    let inverse := inverseMod fieldPrime point.z
    let square := mul inverse inverse
    some (mul point.x square, mul point.y (mul square inverse))

def ofAbscissa? (x : Nat) (odd : Bool) : Option Point :=
  if fieldPrime ≤ x then none
  else
    let square := add (mul x (mul x x)) 7
    let root := powMod fieldPrime square 256 ((fieldPrime + 1) / 4)
    if mul root root ≠ square then none
    else some (ofAffine x (if (root % 2 = 1) = odd then root else sub 0 root))

end Point

end StateTransition.Secp256k1
