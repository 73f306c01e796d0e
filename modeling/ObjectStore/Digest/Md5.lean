import ObjectStore.Bytes
/-!
# MD5

The digest of RFC 1321, with which an upload is checked against the entity tag that the
server assigns to it.
-/

namespace ObjectStore.Digest.Md5

structure State where
  a : UInt32
  b : UInt32
  c : UInt32
  d : UInt32

def start : State := ⟨0x67452301, 0xefcdab89, 0x98badcfe, 0x10325476⟩

/-- The integer parts of 2³² times the absolute sines of 1 to 64. -/
def sines : List UInt32 := [
  0xd76aa478, 0xe8c7b756, 0x242070db, 0xc1bdceee, 0xf57c0faf, 0x4787c62a,
  0xa8304613, 0xfd469501, 0x698098d8, 0x8b44f7af, 0xffff5bb1, 0x895cd7be,
  0x6b901122, 0xfd987193, 0xa679438e, 0x49b40821, 0xf61e2562, 0xc040b340,
  0x265e5a51, 0xe9b6c7aa, 0xd62f105d, 0x02441453, 0xd8a1e681, 0xe7d3fbc8,
  0x21e1cde6, 0xc33707d6, 0xf4d50d87, 0x455a14ed, 0xa9e3e905, 0xfcefa3f8,
  0x676f02d9, 0x8d2a4c8a, 0xfffa3942, 0x8771f681, 0x6d9d6122, 0xfde5380c,
  0xa4beea44, 0x4bdecfa9, 0xf6bb4b60, 0xbebfbc70, 0x289b7ec6, 0xeaa127fa,
  0xd4ef3085, 0x04881d05, 0xd9d4d039, 0xe6db99e5, 0x1fa27cf8, 0xc4ac5665,
  0xf4292244, 0x432aff97, 0xab9423a7, 0xfc93a039, 0x655b59c3, 0x8f0ccc92,
  0xffeff47d, 0x85845dd1, 0x6fa87e4f, 0xfe2ce6e0, 0xa3014314, 0x4e0811a1,
  0xf7537e82, 0xbd3af235, 0x2ad7d2bb, 0xeb86d391]

/-- How far each of the four steps of a row rotates, for the four rounds. -/
def rotations : List (List UInt32) :=
  [[7, 12, 17, 22], [5, 9, 14, 20], [4, 11, 16, 23], [6, 10, 15, 21]]

def rotateLeft (x : UInt32) (n : UInt32) : UInt32 := (x <<< n) ||| (x >>> (32 - n))

/-- Four bytes as a word, the first byte lowest. -/
def words : Bytes → List UInt32
  | p :: q :: r :: s :: l =>
    (p.toUInt32 ||| q.toUInt32 <<< 8 ||| r.toUInt32 <<< 16 ||| s.toUInt32 <<< 24) :: words l
  | _ => []

/-- A word as four bytes, the lowest first. -/
def wordBytes (w : UInt32) : Bytes :=
  [w.toUInt8, (w >>> 8).toUInt8, (w >>> 16).toUInt8, (w >>> 24).toUInt8]

/-- One step: its number fixes the mixing function, the word of the block and the rotation. -/
def step (block : Array UInt32) (v : State) (i : Nat) (sine : UInt32) : State :=
  let (mix, k) :=
    match i / 16 with
    | 0 => ((v.b &&& v.c) ||| ((~~~v.b) &&& v.d), i)
    | 1 => ((v.d &&& v.b) ||| ((~~~v.d) &&& v.c), 5 * i + 1)
    | 2 => (v.b ^^^ v.c ^^^ v.d, 3 * i + 5)
    | _ => (v.c ^^^ (v.b ||| ~~~v.d), 7 * i)
  let shift := ((rotations.getD (i / 16) []).getD (i % 4) 0)
  let t := v.a + mix + sine + block.getD (k % 16) 0
  ⟨v.d, v.b + rotateLeft t shift, v.b, v.c⟩

def compress (v : State) (block : Bytes) : State :=
  let w := (words block).toArray
  let r := sines.zipIdx.foldl (fun v p => step w v p.2 p.1) v
  ⟨v.a + r.a, v.b + r.b, v.c + r.c, v.d + r.d⟩

def compressBlocks : Nat → State → Bytes → State
  | 0, v, _ => v
  | n + 1, v, b => compressBlocks n (compress v (b.take 64)) (b.drop 64)

/-- What follows a message of `n` bytes: a set bit, zeros, and the length in bits. -/
def padding (n : Nat) : Bytes :=
  let bits := (8 * n).toUInt64
  0x80 :: (List.replicate ((119 - n % 64) % 64) (0 : UInt8) ++
    wordBytes bits.toUInt32 ++ wordBytes (bits >>> 32).toUInt32)

end Md5

def md5 (message : Bytes) : Bytes :=
  let n := message.length
  let pad := Md5.padding n
  let v := Md5.compressBlocks ((n + pad.length) / 64) Md5.start (message ++ pad)
  [v.a, v.b, v.c, v.d].flatMap Md5.wordBytes

end ObjectStore.Digest
