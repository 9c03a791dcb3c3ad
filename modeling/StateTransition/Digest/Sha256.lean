import StateTransition.Bytes

namespace StateTransition.Sha256

structure Chain where
  a : UInt32
  b : UInt32
  c : UInt32
  d : UInt32
  e : UInt32
  f : UInt32
  g : UInt32
  h : UInt32

def start : Chain :=
  ⟨0x6a09e667, 0xbb67ae85, 0x3c6ef372, 0xa54ff53a, 0x510e527f, 0x9b05688c, 0x1f83d9ab, 0x5be0cd19⟩

def roundConstants : List UInt32 :=
  [0x428a2f98, 0x71374491, 0xb5c0fbcf, 0xe9b5dba5, 0x3956c25b, 0x59f111f1, 0x923f82a4, 0xab1c5ed5,
   0xd807aa98, 0x12835b01, 0x243185be, 0x550c7dc3, 0x72be5d74, 0x80deb1fe, 0x9bdc06a7, 0xc19bf174,
   0xe49b69c1, 0xefbe4786, 0x0fc19dc6, 0x240ca1cc, 0x2de92c6f, 0x4a7484aa, 0x5cb0a9dc, 0x76f988da,
   0x983e5152, 0xa831c66d, 0xb00327c8, 0xbf597fc7, 0xc6e00bf3, 0xd5a79147, 0x06ca6351, 0x14292967,
   0x27b70a85, 0x2e1b2138, 0x4d2c6dfc, 0x53380d13, 0x650a7354, 0x766a0abb, 0x81c2c92e, 0x92722c85,
   0xa2bfe8a1, 0xa81a664b, 0xc24b8b70, 0xc76c51a3, 0xd192e819, 0xd6990624, 0xf40e3585, 0x106aa070,
   0x19a4c116, 0x1e376c08, 0x2748774c, 0x34b0bcb5, 0x391c0cb3, 0x4ed8aa4a, 0x5b9cca4f, 0x682e6ff3,
   0x748f82ee, 0x78a5636f, 0x84c87814, 0x8cc70208, 0x90befffa, 0xa4506ceb, 0xbef9a3f7, 0xc67178f2]

def rotateRight (word count : UInt32) : UInt32 := (word >>> count) ||| (word <<< (32 - count))

def wordOfBytes (bytes : Bytes) : UInt32 :=
  bytes.foldl (fun word byte => (word <<< 8) ||| byte.toUInt32) 0

def wordsOfBytes : Bytes → List UInt32
  | a :: b :: c :: d :: rest => wordOfBytes [a, b, c, d] :: wordsOfBytes rest
  | _ => []

def bytesOfWord (word : UInt32) : Bytes :=
  [(word >>> 24).toUInt8, (word >>> 16).toUInt8, (word >>> 8).toUInt8, word.toUInt8]

def nextWord (words : List UInt32) : UInt32 :=
  let back (i : Nat) : UInt32 := words.getD (i - 1) 0
  let near := back 2
  let far := back 15
  let nearMix := rotateRight near 17 ^^^ rotateRight near 19 ^^^ (near >>> 10)
  let farMix := rotateRight far 7 ^^^ rotateRight far 18 ^^^ (far >>> 3)
  back 16 + farMix + back 7 + nearMix

def extend : Nat → List UInt32 → List UInt32
  | 0, words => words
  | more + 1, words => extend more (nextWord words :: words)

def schedule (block : Bytes) : List UInt32 := (extend 48 (wordsOfBytes block).reverse).reverse

def round (chain : Chain) (constant word : UInt32) : Chain :=
  let bigE := rotateRight chain.e 6 ^^^ rotateRight chain.e 11 ^^^ rotateRight chain.e 25
  let choice := (chain.e &&& chain.f) ^^^ (~~~ chain.e &&& chain.g)
  let bigA := rotateRight chain.a 2 ^^^ rotateRight chain.a 13 ^^^ rotateRight chain.a 22
  let majority := (chain.a &&& chain.b) ^^^ (chain.a &&& chain.c) ^^^ (chain.b &&& chain.c)
  let left := chain.h + bigE + choice + constant + word
  let right := bigA + majority
  ⟨left + right, chain.a, chain.b, chain.c, chain.d + left, chain.e, chain.f, chain.g⟩

def compress (chain : Chain) (block : Bytes) : Chain :=
  let rounds := roundConstants.zip (schedule block)
  let last := rounds.foldl (fun chain pair => round chain pair.1 pair.2) chain
  ⟨chain.a + last.a, chain.b + last.b, chain.c + last.c, chain.d + last.d,
   chain.e + last.e, chain.f + last.f, chain.g + last.g, chain.h + last.h⟩

def padding (length : Nat) : Bytes :=
  0x80 :: (Bytes.zeros ((119 - length % 64) % 64) ++ Bytes.toBigEndian 8 (8 * length))

def run : Nat → Bytes → Chain → Chain
  | 0, _, chain => chain
  | blocks + 1, message, chain => run blocks (message.drop 64) (compress chain (message.take 64))

end StateTransition.Sha256

namespace StateTransition

def sha256 (message : Bytes) : Bytes :=
  let padded := message ++ Sha256.padding message.length
  let chain := Sha256.run (padded.length / 64) padded Sha256.start
  [chain.a, chain.b, chain.c, chain.d, chain.e, chain.f, chain.g, chain.h].flatMap
    Sha256.bytesOfWord

/-- The authentication code of a message under a key of at most 64 bytes, with SHA-256 inside. -/
def hmacSha256 (key message : Bytes) : Bytes :=
  let block := key ++ Bytes.zeros (64 - key.length)
  sha256 (block.map (· ^^^ 0x5c) ++ sha256 (block.map (· ^^^ 0x36) ++ message))

end StateTransition
