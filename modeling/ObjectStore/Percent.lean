import ObjectStore.Bytes
import ObjectStore.Text.Utf8
/-!
# Percent encoding

A text goes into a URL byte by byte: an unreserved byte stands for itself and any other
byte is written as `%` and two upper-case hexadecimal digits.  Object keys keep their
slashes, everything else encodes them; `encode` takes that choice as a parameter.
`encodeKey` has a class of bytes for keys of its own and returns a key that needs no encoding
as it is; `append` writes onto the end of a text.  `decode?` undoes all three and leaves alone
what is not an escape.
-/

namespace ObjectStore.Percent

/-- Whether a slash is written as it is or encoded like any other reserved byte. -/
inductive Slash where
  | kept
  | encoded
  deriving Repr, DecidableEq

/-- Letters, digits and the four marks that a URL carries without encoding. -/
def isUnreserved (b : UInt8) : Bool :=
  (65 ≤ b && b ≤ 90) || (97 ≤ b && b ≤ 122) || (48 ≤ b && b ≤ 57) ||
    b = 45 || b = 95 || b = 46 || b = 126

def isLiteral (slash : Slash) (b : UInt8) : Bool :=
  isUnreserved b || (slash = .kept && b = 47)

def encodeByte (slash : Slash) (b : UInt8) : List Char :=
  if isLiteral slash b then [Char.ofNat b.toNat]
  else ['%', upperHexDigit (b >>> 4), upperHexDigit (b &&& 15)]

def encode (slash : Slash) (s : String) : String :=
  String.ofList ((utf8 s).flatMap (encodeByte slash))

/-! ### Writing byte by byte -/

/-- A byte written behind a text: as it is if its class has it, and else as its escape. -/
def push (literal : UInt8 → Bool) (out : String) (b : UInt8) : String :=
  if literal b then out.push (Char.ofNat b.toNat)
  else ((out.push '%').push (upperHexDigit (b >>> 4))).push (upperHexDigit (b &&& 15))

/-- The bytes that an object key carries without encoding. -/
def isKeyByte (b : UInt8) : Bool :=
  (65 ≤ b && b ≤ 90) || (97 ≤ b && b ≤ 122) || (48 ≤ b && b ≤ 57) ||
    b = 45 || b = 95 || b = 46 || b = 126 || b = 47

def encodeKey (key : String) : String :=
  if (utf8 key).all isKeyByte then key else (utf8 key).foldl (push isKeyByte) ""

/-- `buffer` followed by the written form of `s`, as it stands in a query. -/
def append (buffer s : String) : String := (utf8 s).foldl (push isUnreserved) buffer

/-! ### Decoding -/

/-- Replace each escape by its byte; a `%` that two hexadecimal digits do not follow stands
for itself. -/
def decodeBytes : Bytes → Bytes
  | 37 :: a :: b :: r =>
    match hexValue? a, hexValue? b with
    | some high, some low => (high * 16 + low) :: decodeBytes r
    | _, _ => 37 :: decodeBytes (a :: b :: r)
  | b :: r => b :: decodeBytes r
  | [] => []

/-- The text that `s` is the written form of, unless the decoded bytes are no text. -/
def decode? (s : String) : Option String := Text.Utf8.decode? (decodeBytes (utf8 s))

/-- The decoded text, or `s` itself if its decoded bytes are no text. -/
def decodeOrKeep (s : String) : String := (decode? s).getD s

end ObjectStore.Percent
