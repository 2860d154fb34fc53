/-!
# Message digest

The 128-bit digest of a byte sequence: the message is padded to whole blocks of
64 bytes and each block is mixed into four 32-bit words in 64 steps.  Names that
have to be stable across builds are derived from it.
-/

namespace ComponentCompiler.Digest

/-- The four words that a block is mixed into. -/
structure Words where
  a : UInt32
  b : UInt32
  c : UInt32
  d : UInt32

/-- The constant added in each step, the sines of 1, 2, … scaled to 32 bits. -/
def sines : List UInt32 :=
  [0xd76aa478, 0xe8c7b756, 0x242070db, 0xc1bdceee, 0xf57c0faf, 0x4787c62a, 0xa8304613, 0xfd469501,
   0x698098d8, 0x8b44f7af, 0xffff5bb1, 0x895cd7be, 0x6b901122, 0xfd987193, 0xa679438e, 0x49b40821,
   0xf61e2562, 0xc040b340, 0x265e5a51, 0xe9b6c7aa, 0xd62f105d, 0x02441453, 0xd8a1e681, 0xe7d3fbc8,
   0x21e1cde6, 0xc33707d6, 0xf4d50d87, 0x455a14ed, 0xa9e3e905, 0xfcefa3f8, 0x676f02d9, 0x8d2a4c8a,
   0xfffa3942, 0x8771f681, 0x6d9d6122, 0xfde5380c, 0xa4beea44, 0x4bdecfa9, 0xf6bb4b60, 0xbebfbc70,
   0x289b7ec6, 0xeaa127fa, 0xd4ef3085, 0x04881d05, 0xd9d4d039, 0xe6db99e5, 0x1fa27cf8, 0xc4ac5665,
   0xf4292244, 0x432aff97, 0xab9423a7, 0xfc93a039, 0x655b59c3, 0x8f0ccc92, 0xffeff47d, 0x85845dd1,
   0x6fa87e4f, 0xfe2ce6e0, 0xa3014314, 0x4e0811a1, 0xf7537e82, 0xbd3af235, 0x2ad7d2bb, 0xeb86d391]

/-- How far the sum of a step is rotated; four amounts per round take turns. -/
def rotation (step : Nat) : UInt32 :=
  match step / 16, step % 4 with
  | 0, 0 => 7 | 0, 1 => 12 | 0, 2 => 17 | 0, _ => 22
  | 1, 0 => 5 | 1, 1 => 9 | 1, 2 => 14 | 1, _ => 20
  | 2, 0 => 4 | 2, 1 => 11 | 2, 2 => 16 | 2, _ => 23
  | _, 0 => 6 | _, 1 => 10 | _, 2 => 15 | _, _ => 21

def rotateLeft (x amount : UInt32) : UInt32 := (x <<< amount) ||| (x >>> (32 - amount))

/-- One step: the round's mixing function, a word of the block and a constant. -/
def mixStep (block : Array UInt32) (w : Words) (step : Nat × UInt32) : Words :=
  let (i, sine) := step
  let (mixed, index) :=
    match i / 16 with
    | 0 => ((w.b &&& w.c) ||| (~~~w.b &&& w.d), i)
    | 1 => ((w.d &&& w.b) ||| (~~~w.d &&& w.c), (5 * i + 1) % 16)
    | 2 => (w.b ^^^ w.c ^^^ w.d, (3 * i + 5) % 16)
    | _ => (w.c ^^^ (w.b ||| ~~~w.d), (7 * i) % 16)
  let sum := w.a + mixed + sine + block.getD index 0
  ⟨w.d, w.b + rotateLeft sum (rotation i), w.b, w.c⟩

/-- Mixes one block of sixteen words into the state. -/
def mixBlock (w : Words) (block : List UInt32) : Words :=
  let steps := (List.range 64).zip sines
  let mixed := steps.foldl (mixStep block.toArray) w
  ⟨w.a + mixed.a, w.b + mixed.b, w.c + mixed.c, w.d + mixed.d⟩

/-- The bytes of a number, least significant first. -/
def littleEndian : (width : Nat) → Nat → List UInt8
  | 0, _ => []
  | width + 1, n => UInt8.ofNat (n % 256) :: littleEndian width (n / 256)

/-- The message with a set bit, zeros and its length in bits after it, which
together fill whole blocks. -/
def pad (message : List UInt8) : List UInt8 :=
  let zeros := (119 - message.length % 64) % 64
  message ++ 0x80 :: (List.replicate zeros 0 ++ littleEndian 8 (8 * message.length))

/-- The words of a byte sequence, four bytes each, least significant byte first. -/
def words : List UInt8 → List UInt32
  | a :: b :: c :: d :: rest =>
      (a.toUInt32 ||| (b.toUInt32 <<< 8) ||| (c.toUInt32 <<< 16) ||| (d.toUInt32 <<< 24)) ::
        words rest
  | _ => []

/-- Mixes every whole block of sixteen words into the state. -/
def mixAll (w : Words) (ws : List UInt32) : Words :=
  if _h : ws.length < 16 then w else mixAll (mixBlock w (ws.take 16)) (ws.drop 16)
termination_by ws.length
decreasing_by simp only [List.length_drop]; omega

/-- The sixteen bytes of the digest. -/
def ofBytes (message : List UInt8) : List UInt8 :=
  let w := mixAll ⟨0x67452301, 0xefcdab89, 0x98badcfe, 0x10325476⟩ (words (pad message))
  [w.a, w.b, w.c, w.d].flatMap fun word => littleEndian 4 word.toNat

end ComponentCompiler.Digest
