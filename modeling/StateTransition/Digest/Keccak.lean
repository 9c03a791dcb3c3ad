import StateTransition.Hash256

/-!
Keccak-256: a sponge over 25 lanes of 64 bits with a rate of 136 bytes, padded with a one bit right
after the message and a one bit at the end of the last block.
-/

namespace StateTransition.Keccak

structure Row where
  a : UInt64
  b : UInt64
  c : UInt64
  d : UInt64
  e : UInt64
  deriving DecidableEq, Repr

structure Lanes where
  r0 : Row
  r1 : Row
  r2 : Row
  r3 : Row
  r4 : Row
  deriving DecidableEq, Repr

def rate : Nat := 136

def roundConstants : List UInt64 :=
  [0x0000000000000001, 0x0000000000008082, 0x800000000000808a, 0x8000000080008000,
   0x000000000000808b, 0x0000000080000001, 0x8000000080008081, 0x8000000000008009,
   0x000000000000008a, 0x0000000000000088, 0x0000000080008009, 0x000000008000000a,
   0x000000008000808b, 0x800000000000008b, 0x8000000000008089, 0x8000000000008003,
   0x8000000000008002, 0x8000000000000080, 0x000000000000800a, 0x800000008000000a,
   0x8000000080008081, 0x8000000000008080, 0x0000000080000001, 0x8000000080008008]

def rotateLeft (lane count : UInt64) : UInt64 := (lane <<< count) ||| (lane >>> (64 - count))

namespace Row

def zero : Row := ⟨0, 0, 0, 0, 0⟩

def add (left right : Row) : Row :=
  ⟨left.a ^^^ right.a, left.b ^^^ right.b, left.c ^^^ right.c, left.d ^^^ right.d,
   left.e ^^^ right.e⟩

def turn (row : Row) (a b c d e : UInt64) : Row :=
  ⟨rotateLeft row.a a, rotateLeft row.b b, rotateLeft row.c c, rotateLeft row.d d,
   rotateLeft row.e e⟩

/-- From column parities: that of the column before and, turned by one, of the one after. -/
def shifts (parities : Row) : Row :=
  ⟨parities.e ^^^ rotateLeft parities.b 1, parities.a ^^^ rotateLeft parities.c 1,
   parities.b ^^^ rotateLeft parities.d 1, parities.c ^^^ rotateLeft parities.e 1,
   parities.d ^^^ rotateLeft parities.a 1⟩

def mix (row : Row) : Row :=
  ⟨row.a ^^^ (~~~ row.b &&& row.c), row.b ^^^ (~~~ row.c &&& row.d),
   row.c ^^^ (~~~ row.d &&& row.e), row.d ^^^ (~~~ row.e &&& row.a),
   row.e ^^^ (~~~ row.a &&& row.b)⟩

end Row

namespace Lanes

def zero : Lanes := ⟨.zero, .zero, .zero, .zero, .zero⟩

def mixColumns (lanes : Lanes) : Lanes :=
  let parities := lanes.r0.add (lanes.r1.add (lanes.r2.add (lanes.r3.add lanes.r4)))
  let shifts := parities.shifts
  ⟨lanes.r0.add shifts, lanes.r1.add shifts, lanes.r2.add shifts, lanes.r3.add shifts,
   lanes.r4.add shifts⟩

def turn (lanes : Lanes) : Lanes :=
  ⟨lanes.r0.turn 0 1 62 28 27, lanes.r1.turn 36 44 6 55 20, lanes.r2.turn 3 10 43 25 39,
   lanes.r3.turn 41 45 15 21 8, lanes.r4.turn 18 2 61 56 14⟩

def scatter (lanes : Lanes) : Lanes :=
  ⟨⟨lanes.r0.a, lanes.r1.b, lanes.r2.c, lanes.r3.d, lanes.r4.e⟩,
   ⟨lanes.r0.d, lanes.r1.e, lanes.r2.a, lanes.r3.b, lanes.r4.c⟩,
   ⟨lanes.r0.b, lanes.r1.c, lanes.r2.d, lanes.r3.e, lanes.r4.a⟩,
   ⟨lanes.r0.e, lanes.r1.a, lanes.r2.b, lanes.r3.c, lanes.r4.d⟩,
   ⟨lanes.r0.c, lanes.r1.d, lanes.r2.e, lanes.r3.a, lanes.r4.b⟩⟩

def mixRows (lanes : Lanes) : Lanes :=
  ⟨lanes.r0.mix, lanes.r1.mix, lanes.r2.mix, lanes.r3.mix, lanes.r4.mix⟩

def addConstant (lanes : Lanes) (constant : UInt64) : Lanes :=
  { lanes with r0 := { lanes.r0 with a := lanes.r0.a ^^^ constant } }

def round (lanes : Lanes) (constant : UInt64) : Lanes :=
  lanes.mixColumns.turn.scatter.mixRows.addConstant constant

def permute (lanes : Lanes) : Lanes := roundConstants.foldl round lanes

end Lanes

def laneOfBytes (bytes : Bytes) : UInt64 :=
  bytes.foldr (fun byte lane => (lane <<< 8) ||| byte.toUInt64) 0

def bytesOfLane (lane : UInt64) : Bytes :=
  (List.range 8).map fun i => (lane >>> UInt64.ofNat (8 * i)).toUInt8

/-- The five lanes that 40 bytes spell, eight bytes a lane; missing bytes count as zeros. -/
def rowOfBytes (bytes : Bytes) : Row :=
  let lane (i : Nat) : UInt64 := laneOfBytes ((bytes.drop (8 * i)).take 8)
  ⟨lane 0, lane 1, lane 2, lane 3, lane 4⟩

def Lanes.addBlock (lanes : Lanes) (block : Bytes) : Lanes :=
  ⟨lanes.r0.add (rowOfBytes block), lanes.r1.add (rowOfBytes (block.drop 40)),
   lanes.r2.add (rowOfBytes (block.drop 80)), lanes.r3.add (rowOfBytes (block.drop 120)),
   lanes.r4⟩

/-- One or more bytes that fill the last block: the first carries a low one bit, the last a high. -/
def padding (length : Nat) : Bytes :=
  match rate - length % rate with
  | 0 => []
  | 1 => [0x81]
  | missing + 2 => 0x01 :: (Bytes.zeros missing ++ [0x80])

def absorb : Nat → Bytes → Lanes → Lanes
  | 0, _, lanes => lanes
  | blocks + 1, message, lanes =>
    absorb blocks (message.drop rate) (lanes.addBlock (message.take rate)).permute

end StateTransition.Keccak

namespace StateTransition

def keccak256 (message : Bytes) : Hash256 :=
  let length := message.length
  let lanes := Keccak.absorb (length / Keccak.rate + 1) (message ++ Keccak.padding length) .zero
  let row := lanes.r0
  Hash256.ofBytes ([row.a, row.b, row.c, row.d].flatMap Keccak.bytesOfLane)

end StateTransition
