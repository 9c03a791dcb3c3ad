/-!
Byte strings and the big-endian digits of numbers. `ofBigEndian` reads a byte string as a number,
`toBigEndian n v` writes the last `n` base-256 digits of `v`.
-/

namespace StateTransition

abbrev Bytes := List UInt8

namespace Bytes

def ofBigEndian (bytes : Bytes) : Nat :=
  bytes.foldl (fun value byte => value * 256 + byte.toNat) 0

def toBigEndianOnto : Nat → Nat → Bytes → Bytes
  | 0, _, low => low
  | width + 1, value, low => toBigEndianOnto width (value / 256) (UInt8.ofNat value :: low)

/-- The last `width` base-256 digits of `value`, most significant first. -/
def toBigEndian (width value : Nat) : Bytes := toBigEndianOnto width value []

def toLittleEndian : Nat → Nat → Bytes
  | 0, _ => []
  | width + 1, value => UInt8.ofNat value :: toLittleEndian width (value / 256)

def zeros (count : Nat) : Bytes := List.replicate count 0

/-- Zero bytes in front until `width` bytes are reached; longer strings stay as they are. -/
def padLeft (width : Nat) (bytes : Bytes) : Bytes := zeros (width - bytes.length) ++ bytes

/-- The `size` bytes that start at `offset`, with zero bytes past the end. -/
def window (bytes : Bytes) (offset size : Nat) : Bytes :=
  let present := (bytes.drop offset).take size
  present ++ zeros (size - present.length)

def slice (bytes : Bytes) (start stop : Nat) : Bytes := (bytes.drop start).take (stop - start)

/-- The shortest big-endian spelling of a number; zero is the empty string. -/
def minimal (value : Nat) : Bytes :=
  toBigEndian ((value.log2 + 8) / 8) value |>.dropWhile (· == 0)

theorem length_toBigEndianOnto (width value : Nat) (low : Bytes) :
    (toBigEndianOnto width value low).length = width + low.length := by
  induction width generalizing value low with
  | zero => simp [toBigEndianOnto]
  | succ width ih =>
    rw [toBigEndianOnto, ih, List.length_cons]
    omega

@[simp] theorem length_toBigEndian (width value : Nat) :
    (toBigEndian width value).length = width := by
  simp [toBigEndian, length_toBigEndianOnto]

@[simp] theorem length_zeros (count : Nat) : (zeros count).length = count := by simp [zeros]

@[simp] theorem length_window (bytes : Bytes) (offset size : Nat) :
    (window bytes offset size).length = size := by
  simp only [window, List.length_append, List.length_take, List.length_drop, length_zeros]
  omega

def ofText (text : String) : Bytes := text.toList.flatMap String.utf8EncodeChar

end Bytes

end StateTransition
