import ObjectStore.Percent
/-!
# Percent encoding, both ways

The written form of a text holds literal characters and escapes only (`isCode_of_mem_encode`),
so a separator never stands in it, and decoding gives the text back (`decode?_encode`).  The
two other encoders write the same form: `encodeKey_eq` and `append_eq`.

Everything is first said of one byte, where the kernel goes through all 256 of them.
-/

namespace ObjectStore.Percent

theorem forall_byte {p : UInt8 → Prop} (h : ∀ n : Fin 256, p (UInt8.ofNat n)) (b : UInt8) :
    p b := by
  have hb := h ⟨b.toNat, b.toNat_lt⟩
  rwa [UInt8.ofNat_toNat] at hb

/-! ### One byte -/

/-- Whether a character can stand in a written form. -/
def isCode (slash : Slash) (c : Char) : Bool :=
  c = '%' || (c.toNat < 128 && isLiteral slash c.toNat.toUInt8)

theorem all_isCode_encodeByte (slash : Slash) (b : UInt8) :
    (encodeByte slash b).all (isCode slash) = true := by
  revert b
  cases slash
  · exact forall_byte (by decide +kernel)
  · exact forall_byte (by decide +kernel)

theorem utf8EncodeChar_of_isLiteral (slash : Slash) (b : UInt8) :
    isLiteral slash b = true → String.utf8EncodeChar (Char.ofNat b.toNat) = [b] ∧ b ≠ 37 := by
  revert b
  cases slash
  · exact forall_byte (by decide +kernel)
  · exact forall_byte (by decide +kernel)

/-- The escape of a byte is three ASCII characters, and the last two of them are digits of it. -/
theorem utf8_escape (b : UInt8) :
    ['%', upperHexDigit (b >>> 4), upperHexDigit (b &&& 15)].flatMap String.utf8EncodeChar =
        ([37, (upperHexDigit (b >>> 4)).toNat.toUInt8,
          (upperHexDigit (b &&& 15)).toNat.toUInt8] : Bytes) ∧
      hexValue? (upperHexDigit (b >>> 4)).toNat.toUInt8 = some (b >>> 4) ∧
      hexValue? (upperHexDigit (b &&& 15)).toNat.toUInt8 = some (b &&& 15) ∧
      (b >>> 4) * 16 + (b &&& 15) = b := by
  revert b
  exact forall_byte (by decide +kernel)

theorem decodeBytes_cons_of_ne {b : UInt8} (h : b ≠ 37) (rest : Bytes) :
    decodeBytes (b :: rest) = b :: decodeBytes rest := by
  rw [decodeBytes]
  rintro a c r rfl
  exact absurd rfl h

theorem decodeBytes_encodeByte (slash : Slash) (b : UInt8) (rest : Bytes) :
    decodeBytes ((encodeByte slash b).flatMap String.utf8EncodeChar ++ rest) =
      b :: decodeBytes rest := by
  rw [encodeByte]
  by_cases h : isLiteral slash b
  · have ⟨hchar, hne⟩ := utf8EncodeChar_of_isLiteral slash b h
    rw [if_pos h, List.flatMap_cons, List.flatMap_nil, List.append_nil, hchar]
    exact decodeBytes_cons_of_ne hne rest
  · have ⟨hbytes, hhigh, hlow, hsum⟩ := utf8_escape b
    rw [if_neg h, hbytes, List.cons_append, List.cons_append, List.cons_append, List.nil_append,
      decodeBytes, hhigh, hlow]
    simp only [hsum]

/-! ### Texts -/

theorem utf8_encode (slash : Slash) (s : String) :
    utf8 (encode slash s) =
      (utf8 s).flatMap fun b => (encodeByte slash b).flatMap String.utf8EncodeChar := by
  rw [encode, utf8_ofList, List.flatMap_assoc]

theorem encode_append (slash : Slash) (s t : String) :
    encode slash (s ++ t) = encode slash s ++ encode slash t := by
  rw [encode, encode, encode, utf8_append, List.flatMap_append, String.ofList_append]

theorem isCode_of_mem_encode {slash : Slash} {s : String} {c : Char}
    (h : c ∈ (encode slash s).toList) : isCode slash c = true := by
  rw [encode, String.toList_ofList, List.mem_flatMap] at h
  obtain ⟨b, _, hc⟩ := h
  exact List.all_eq_true.1 (all_isCode_encodeByte slash b) c hc

/-- What is neither literal nor a percent sign does not stand in a written form. -/
theorem notMem_encode {slash : Slash} {c : Char} (h : isCode slash c = false) (s : String) :
    c ∉ (encode slash s).toList := by
  intro hc
  rw [isCode_of_mem_encode hc] at h
  cases h

theorem decodeBytes_encode (slash : Slash) (s : String) :
    decodeBytes (utf8 (encode slash s)) = utf8 s := by
  rw [utf8_encode]
  induction utf8 s with
  | nil => rw [List.flatMap_nil, decodeBytes]
  | cons b bytes ih => rw [List.flatMap_cons, decodeBytes_encodeByte, ih]

/-- **What is written can be read:** decoding a written form gives the text. -/
theorem decode?_encode (slash : Slash) (s : String) : decode? (encode slash s) = some s := by
  rw [decode?, decodeBytes_encode, Text.Utf8.decode?_utf8]

theorem decodeOrKeep_encode (slash : Slash) (s : String) : decodeOrKeep (encode slash s) = s := by
  rw [decodeOrKeep, decode?_encode, Option.getD_some]

theorem encode_injective {slash : Slash} {s t : String} (h : encode slash s = encode slash t) :
    s = t := by
  have hs := decode?_encode slash s
  rw [h, decode?_encode] at hs
  exact (Option.some.inj hs).symm

/-! ### The other two encoders -/

/-- A text of literal bytes is its own written form. -/
theorem encode_of_literal {slash : Slash} {s : String}
    (h : (utf8 s).all (isLiteral slash) = true) : encode slash s = s := by
  apply utf8_inj
  rw [utf8_encode]
  revert h
  induction utf8 s with
  | nil => exact fun _ => rfl
  | cons b bytes ih =>
    intro h
    rw [List.all_cons, Bool.and_eq_true] at h
    have hchar := (utf8EncodeChar_of_isLiteral slash b h.1).1
    rw [List.flatMap_cons, ih h.2, encodeByte, if_pos h.1, List.flatMap_cons, List.flatMap_nil,
      List.append_nil, hchar]
    rfl

theorem push_eq {literal : UInt8 → Bool} {slash : Slash}
    (h : ∀ b, literal b = isLiteral slash b) (out : String) (b : UInt8) :
    push literal out b = out ++ String.ofList (encodeByte slash b) := by
  apply String.toList_inj.1
  rw [push, encodeByte, h]
  split <;> simp

/-- What is pushed byte by byte is the written form, behind what was there. -/
theorem foldl_push {literal : UInt8 → Bool} {slash : Slash}
    (h : ∀ b, literal b = isLiteral slash b) (bytes : Bytes) (out : String) :
    bytes.foldl (push literal) out =
      out ++ String.ofList (bytes.flatMap (encodeByte slash)) := by
  induction bytes generalizing out with
  | nil => simp
  | cons b bytes ih =>
    rw [List.foldl_cons, ih, push_eq h, List.flatMap_cons, String.ofList_append,
      String.append_assoc]

theorem isKeyByte_eq (b : UInt8) : isKeyByte b = isLiteral .kept b := by
  rw [isKeyByte, isLiteral, isUnreserved]
  simp

theorem isUnreserved_eq (b : UInt8) : isUnreserved b = isLiteral .encoded b := by
  rw [isLiteral]
  simp

theorem encodeKey_eq (key : String) : encodeKey key = encode .kept key := by
  rw [encodeKey]
  split
  · next h =>
    rw [List.all_congr rfl isKeyByte_eq] at h
    exact (encode_of_literal h).symm
  · rw [foldl_push isKeyByte_eq, String.empty_append, encode]

theorem append_eq (buffer s : String) : append buffer s = buffer ++ encode .encoded s := by
  rw [append, foldl_push isUnreserved_eq, encode]

end ObjectStore.Percent
