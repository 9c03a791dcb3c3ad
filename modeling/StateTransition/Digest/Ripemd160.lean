import StateTransition.Bytes

namespace StateTransition.Ripemd160

structure Chain where
  a : UInt32
  b : UInt32
  c : UInt32
  d : UInt32
  e : UInt32

def start : Chain := ⟨0x67452301, 0xefcdab89, 0x98badcfe, 0x10325476, 0xc3d2e1f0⟩

def rotateLeft (word count : UInt32) : UInt32 := (word <<< count) ||| (word >>> (32 - count))

def mix (kind : Nat) (x y z : UInt32) : UInt32 :=
  match kind with
  | 0 => x ^^^ y ^^^ z
  | 1 => (x &&& y) ||| (~~~ x &&& z)
  | 2 => (x ||| ~~~ y) ^^^ z
  | 3 => (x &&& z) ||| (y &&& ~~~ z)
  | _ => x ^^^ (y ||| ~~~ z)

structure Step where
  kind : Nat
  constant : UInt32
  word : Nat
  turn : UInt32

def perRound {α : Type} (values : List α) : List α := values.flatMap (List.replicate 16)

def steps (kinds : List Nat) (constants : List UInt32) (words : List Nat) (turns : List UInt32) :
    List Step :=
  ((perRound kinds).zip (perRound constants)).zip (words.zip turns) |>.map
    fun ((kind, constant), (word, turn)) => ⟨kind, constant, word, turn⟩

def leftSteps : List Step :=
  steps [0, 1, 2, 3, 4] [0x00000000, 0x5a827999, 0x6ed9eba1, 0x8f1bbcdc, 0xa953fd4e]
    [0, 1, 2, 3, 4, 5, 6, 7, 8, 9, 10, 11, 12, 13, 14, 15,
     7, 4, 13, 1, 10, 6, 15, 3, 12, 0, 9, 5, 2, 14, 11, 8,
     3, 10, 14, 4, 9, 15, 8, 1, 2, 7, 0, 6, 13, 11, 5, 12,
     1, 9, 11, 10, 0, 8, 12, 4, 13, 3, 7, 15, 14, 5, 6, 2,
     4, 0, 5, 9, 7, 12, 2, 10, 14, 1, 3, 8, 11, 6, 15, 13]
    [11, 14, 15, 12, 5, 8, 7, 9, 11, 13, 14, 15, 6, 7, 9, 8,
     7, 6, 8, 13, 11, 9, 7, 15, 7, 12, 15, 9, 11, 7, 13, 12,
     11, 13, 6, 7, 14, 9, 13, 15, 14, 8, 13, 6, 5, 12, 7, 5,
     11, 12, 14, 15, 14, 15, 9, 8, 9, 14, 5, 6, 8, 6, 5, 12,
     9, 15, 5, 11, 6, 8, 13, 12, 5, 12, 13, 14, 11, 8, 5, 6]

def rightSteps : List Step :=
  steps [4, 3, 2, 1, 0] [0x50a28be6, 0x5c4dd124, 0x6d703ef3, 0x7a6d76e9, 0x00000000]
    [5, 14, 7, 0, 9, 2, 11, 4, 13, 6, 15, 8, 1, 10, 3, 12,
     6, 11, 3, 7, 0, 13, 5, 10, 14, 15, 8, 12, 4, 9, 1, 2,
     15, 5, 1, 3, 7, 14, 6, 9, 11, 8, 12, 2, 10, 0, 4, 13,
     8, 6, 4, 1, 3, 11, 15, 0, 5, 12, 2, 13, 9, 7, 10, 14,
     12, 15, 10, 4, 1, 5, 8, 7, 6, 2, 13, 14, 0, 3, 9, 11]
    [8, 9, 9, 11, 13, 15, 15, 5, 7, 7, 8, 11, 14, 14, 12, 6,
     9, 13, 15, 7, 12, 8, 9, 11, 7, 7, 12, 7, 6, 15, 13, 11,
     9, 7, 15, 11, 8, 6, 6, 14, 12, 13, 5, 14, 13, 13, 7, 5,
     15, 5, 8, 11, 14, 14, 6, 14, 6, 9, 12, 9, 12, 5, 15, 8,
     8, 5, 12, 9, 12, 5, 14, 6, 8, 13, 6, 5, 15, 13, 11, 11]

def wordOfBytes (bytes : Bytes) : UInt32 :=
  bytes.foldr (fun byte word => (word <<< 8) ||| byte.toUInt32) 0

def bytesOfWord (word : UInt32) : Bytes :=
  [word.toUInt8, (word >>> 8).toUInt8, (word >>> 16).toUInt8, (word >>> 24).toUInt8]

def runLine (line : List Step) (words : Array UInt32) (chain : Chain) : Chain :=
  line.foldl (fun chain step =>
    let sum := chain.a + mix step.kind chain.b chain.c chain.d + words.getD step.word 0 +
      step.constant
    ⟨chain.e, rotateLeft sum step.turn + chain.e, chain.b, rotateLeft chain.c 10, chain.d⟩) chain

def compress (chain : Chain) (block : Bytes) : Chain :=
  let words := ((List.range 16).map fun i => wordOfBytes ((block.drop (4 * i)).take 4)).toArray
  let left := runLine leftSteps words chain
  let right := runLine rightSteps words chain
  ⟨chain.b + left.c + right.d, chain.c + left.d + right.e, chain.d + left.e + right.a,
   chain.e + left.a + right.b, chain.a + left.b + right.c⟩

def padding (length : Nat) : Bytes :=
  0x80 :: (Bytes.zeros ((119 - length % 64) % 64) ++ Bytes.toLittleEndian 8 (8 * length))

def run : Nat → Bytes → Chain → Chain
  | 0, _, chain => chain
  | blocks + 1, message, chain => run blocks (message.drop 64) (compress chain (message.take 64))

end StateTransition.Ripemd160

namespace StateTransition

def ripemd160 (message : Bytes) : Bytes :=
  let padded := message ++ Ripemd160.padding message.length
  let chain := Ripemd160.run (padded.length / 64) padded Ripemd160.start
  [chain.a, chain.b, chain.c, chain.d, chain.e].flatMap Ripemd160.bytesOfWord

end StateTransition
