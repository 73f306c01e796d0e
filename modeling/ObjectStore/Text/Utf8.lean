import ObjectStore.Bytes
/-!
# Reading UTF-8

`decode` turns a byte string into text or says where it stops being UTF-8; `decodeLossy`
never fails and puts U+FFFD in place of each stretch that is not UTF-8.  Both follow
the maximal-subpart rule: a fault begins at the first byte that cannot continue a
character, and its length is the number of bytes that could still have begun one.
-/

namespace ObjectStore.Text.Utf8

/-- The first place where a byte string is not UTF-8.  Without a length, the string ends
inside a character. -/
structure Fault where
  offset : Nat
  length : Option Nat
  deriving Repr, DecidableEq

def Fault.message (f : Fault) : String :=
  match f.length with
  | some n => s!"invalid utf-8 sequence of {n} bytes from index {f.offset}"
  | none => s!"incomplete utf-8 byte sequence from index {f.offset}"

/-! ### The next unit -/

/-- What the bytes at one position are: a character, bytes that begin none, or the
beginning of a character that the string cuts off. -/
inductive Unit where
  | char (size : Nat)
  | stray (size : Nat)
  | cut

/-- The range a second byte must lie in, given the first byte of a character of three or
four bytes: it excludes overlong forms, surrogates and values above U+10FFFF. -/
def secondRange (b : UInt8) : UInt8 × UInt8 :=
  if b = 0xE0 then (0xA0, 0xBF)
  else if b = 0xED then (0x80, 0x9F)
  else if b = 0xF0 then (0x90, 0xBF)
  else if b = 0xF4 then (0x80, 0x8F)
  else (0x80, 0xBF)

def isContinuation (b : UInt8) : Bool := 0x80 ≤ b && b ≤ 0xBF

/-- The number of bytes of a character that begins with `b`; zero if none does. -/
def width (b : UInt8) : Nat :=
  if b < 0x80 then 1
  else if 0xC2 ≤ b && b ≤ 0xDF then 2
  else if 0xE0 ≤ b && b ≤ 0xEF then 3
  else if 0xF0 ≤ b && b ≤ 0xF4 then 4
  else 0

/-- Match continuation bytes after `seen` good bytes until the character has `size`. -/
def continued (seen : Nat) : (missing : Nat) → Bytes → Unit
  | 0, _ => .char seen
  | _ + 1, [] => .cut
  | n + 1, b :: r => if isContinuation b then continued (seen + 1) n r else .stray seen

def unit (b : UInt8) (rest : Bytes) : Unit :=
  match width b with
  | 0 => .stray 1
  | 1 => .char 1
  | n + 2 =>
    match rest with
    | [] => .cut
    | c :: r =>
      let (lo, hi) := secondRange b
      if lo ≤ c && c ≤ hi then continued 2 n r else .stray 1

/-! ### Whole strings -/

def faultFrom (offset : Nat) : Bytes → Option Fault
  | [] => none
  | b :: rest =>
    match unit b rest with
    | .char n => faultFrom (offset + max n 1) (rest.drop (n - 1))
    | .stray n => some ⟨offset, some n⟩
    | .cut => some ⟨offset, none⟩
  termination_by s => s.length
  decreasing_by simp only [List.length_cons, List.length_drop]; omega

/-- The text whose UTF-8 form the bytes are, if they are one. -/
def decode? (b : Bytes) : Option String := String.fromUTF8? ⟨b.toArray⟩

def decode (b : Bytes) : Except Fault String :=
  match decode? b with
  | some s => .ok s
  | none => .error ((faultFrom 0 b).getD ⟨0, none⟩)

theorem decode?_utf8 (s : String) : decode? (utf8 s) = some s := by
  have h : (⟨(utf8 s).toArray⟩ : ByteArray) = s.toByteArray := by simp [utf8]
  rw [decode?, h, String.fromUTF8?, dif_pos s.isValidUTF8]
  rfl

theorem decode_utf8 (s : String) : decode (utf8 s) = .ok s := by
  simp [decode, decode?_utf8]

/-- The UTF-8 form of the replacement character U+FFFD. -/
def replacement : Bytes := [0xEF, 0xBF, 0xBD]

/-- The bytes with every fault replaced. -/
def mended : Bytes → Bytes
  | [] => []
  | b :: rest =>
    match unit b rest with
    | .char n => (b :: rest.take (n - 1)) ++ mended (rest.drop (n - 1))
    | .stray n => replacement ++ mended (rest.drop (n - 1))
    | .cut => replacement
  termination_by s => s.length
  decreasing_by all_goals (simp only [List.length_cons, List.length_drop]; omega)

/-- The text of the bytes, each stretch that is not UTF-8 shown as U+FFFD. -/
def decodeLossy (b : Bytes) : String := (decode? (mended b)).getD ""

end ObjectStore.Text.Utf8
