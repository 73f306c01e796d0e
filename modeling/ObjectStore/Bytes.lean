/-!
# Byte strings

Bodies, file contents and digests are lists of bytes, so that a part of a file is a
drop and a take, and a reader of documents is a recursion on the list.  Text enters
this world through `utf8` alone and leaves it through `Text.Utf8`.
-/

namespace ObjectStore

abbrev Bytes := List UInt8

def utf8 (s : String) : Bytes := s.toByteArray.data.toList

theorem utf8_append (s t : String) : utf8 (s ++ t) = utf8 s ++ utf8 t := by
  simp [utf8, String.toByteArray_append]

theorem utf8_ofList (cs : List Char) :
    utf8 (String.ofList cs) = cs.flatMap String.utf8EncodeChar := by
  simp [utf8, List.utf8Encode]

theorem utf8_inj {s t : String} (h : utf8 s = utf8 t) : s = t := by
  apply String.toByteArray_inj.1
  apply ByteArray.ext
  exact Array.toList_inj.1 h

/-! ### Hexadecimal digits -/

/-- The digit of a value below sixteen, in lower case. -/
def lowerHexDigit (n : UInt8) : Char :=
  Char.ofNat (if n < 10 then 48 + n.toNat else 87 + n.toNat)

/-- The digit of a value below sixteen, in upper case. -/
def upperHexDigit (n : UInt8) : Char :=
  Char.ofNat (if n < 10 then 48 + n.toNat else 55 + n.toNat)

/-- Two lower-case digits per byte, the high half first. -/
def hexText (b : Bytes) : String :=
  String.ofList (b.flatMap fun (x : UInt8) => [lowerHexDigit (x >>> 4), lowerHexDigit (x &&& 15)])

def hexValue? (c : UInt8) : Option UInt8 :=
  if 48 ≤ c ∧ c ≤ 57 then some (c - 48)
  else if 65 ≤ c ∧ c ≤ 70 then some (c - 55)
  else if 97 ≤ c ∧ c ≤ 102 then some (c - 87)
  else none

end ObjectStore
