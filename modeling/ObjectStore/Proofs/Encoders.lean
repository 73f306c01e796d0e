import ObjectStore.Proofs.Percent
import ObjectStore.Proofs.Xml.Trim
import ObjectStore.Text.Number
/-!
# Three encoders and one written form

Addresses are made by `encodeKey`, queries by `append`, and a signature is made of what `encode`
writes, so a byte that two of them treat differently would break every signature over it.
`IsWritten` says which texts they may write, in terms of characters and apart from the classes of
bytes that they go by.  A receiver is known only as far as `Decodes` says: escapes stand for their
bytes and other characters for themselves.

**The encoders agree on one form, and every such receiver reads the text in it**
(`encoders_agree`).
-/

namespace ObjectStore.Percent

/-- The characters that are never encoded. -/
def unreserved : String :=
  "ABCDEFGHIJKLMNOPQRSTUVWXYZabcdefghijklmnopqrstuvwxyz0123456789-_.~"

/-- The digits of an escape. -/
def escapeDigits : String := "0123456789ABCDEF"

/-- The text has nothing but unreserved characters, escapes with upper-case digits and, where
they are kept, slashes. -/
inductive IsWritten (slash : Slash) : List Char → Prop
  | nil : IsWritten slash []
  | plain {c : Char} {cs : List Char} (hc : c ∈ unreserved.toList) (h : IsWritten slash cs) :
      IsWritten slash (c :: cs)
  | kept {cs : List Char} (hslash : slash = .kept) (h : IsWritten slash cs) :
      IsWritten slash ('/' :: cs)
  | escape {high low : Char} {cs : List Char} (hhigh : high ∈ escapeDigits.toList)
      (hlow : low ∈ escapeDigits.toList) (h : IsWritten slash cs) :
      IsWritten slash ('%' :: high :: low :: cs)

/-- What is relied on of a receiver: `bytes` are what a text stands for, and what they are the
UTF-8 form of is the decoded text.  A percent sign that begins no escape may stand for anything. -/
structure Decodes (decode : String → Option String) (bytes : List Char → Bytes) : Prop where
  nil : bytes [] = []
  escape : ∀ {high low : Char} {h l : Nat}, Text.digit? 16 high = some h →
    Text.digit? 16 low = some l → ∀ cs,
      bytes ('%' :: high :: low :: cs) = UInt8.ofNat (16 * h + l) :: bytes cs
  other : ∀ {c : Char}, c ≠ '%' → ∀ cs, bytes (c :: cs) = String.utf8EncodeChar c ++ bytes cs
  text : ∀ s, decode s = Text.Utf8.decode? (bytes s.toList)

/-! ### The form -/

theorem mem_unreserved (b : UInt8) :
    isUnreserved b = true → Char.ofNat b.toNat ∈ unreserved.toList := by
  revert b
  exact forall_byte (by decide +kernel)

theorem mem_escapeDigits (b : UInt8) :
    upperHexDigit (b >>> 4) ∈ escapeDigits.toList ∧
      upperHexDigit (b &&& 15) ∈ escapeDigits.toList := by
  revert b
  exact forall_byte (by decide +kernel)

theorem IsWritten.encodeByte {slash : Slash} {cs : List Char} (h : IsWritten slash cs)
    (b : UInt8) : IsWritten slash (Percent.encodeByte slash b ++ cs) := by
  rw [Percent.encodeByte]
  by_cases hliteral : isLiteral slash b = true
  · rw [if_pos hliteral]
    rw [isLiteral, Bool.or_eq_true] at hliteral
    rcases hliteral with hb | hslash
    · exact .plain (mem_unreserved b hb) h
    · rw [Bool.and_eq_true, decide_eq_true_eq, decide_eq_true_eq] at hslash
      obtain ⟨hkept, rfl⟩ := hslash
      exact .kept hkept h
  · rw [if_neg hliteral]
    exact .escape (mem_escapeDigits b).1 (mem_escapeDigits b).2 h

theorem isWritten_encode (slash : Slash) (s : String) :
    IsWritten slash (encode slash s).toList := by
  rw [encode, String.toList_ofList]
  induction utf8 s with
  | nil => exact .nil
  | cons b bytes ih =>
    rw [List.flatMap_cons]
    exact ih.encodeByte b

/-! ### A receiver -/

theorem digit?_escape (b : UInt8) :
    Text.digit? 16 (upperHexDigit (b >>> 4)) = some (b.toNat / 16) ∧
      Text.digit? 16 (upperHexDigit (b &&& 15)) = some (b.toNat % 16) := by
  revert b
  exact forall_byte (by decide +kernel)

theorem ne_percent_of_isLiteral (slash : Slash) (b : UInt8) :
    isLiteral slash b = true → Char.ofNat b.toNat ≠ '%' := by
  revert b
  cases slash
  · exact forall_byte (by decide +kernel)
  · exact forall_byte (by decide +kernel)

namespace Decodes

variable {decode : String → Option String} {bytes : List Char → Bytes}

theorem bytes_encodeByte (h : Decodes decode bytes) (slash : Slash) (b : UInt8)
    (cs : List Char) : bytes (encodeByte slash b ++ cs) = b :: bytes cs := by
  rw [encodeByte]
  by_cases hliteral : isLiteral slash b = true
  · rw [if_pos hliteral]
    refine (h.other (ne_percent_of_isLiteral slash b hliteral) cs).trans ?_
    rw [(utf8EncodeChar_of_isLiteral slash b hliteral).1]
    rfl
  · rw [if_neg hliteral]
    refine (h.escape (digit?_escape b).1 (digit?_escape b).2 cs).trans ?_
    rw [Nat.div_add_mod, UInt8.ofNat_toNat]

theorem bytes_encode (h : Decodes decode bytes) (slash : Slash) (s : String) :
    bytes (encode slash s).toList = utf8 s := by
  rw [encode, String.toList_ofList]
  induction utf8 s with
  | nil => exact h.nil
  | cons b rest ih => rw [List.flatMap_cons, h.bytes_encodeByte, ih]

theorem decode_encode (h : Decodes decode bytes) (slash : Slash) (s : String) :
    decode (encode slash s) = some s := by
  rw [h.text, h.bytes_encode, Text.Utf8.decode?_utf8]

end Decodes

/-! ### The decoder of the program is one -/

theorem hexValue?_eq (b : UInt8) :
    hexValue? b = (Text.digit? 16 (Char.ofNat b.toNat)).map UInt8.ofNat := by
  revert b
  exact forall_byte (by decide +kernel)

/-- A digit is one byte, and its value is that of the byte. -/
theorem utf8EncodeChar_of_digit? {c : Char} {n : Nat} (h : Text.digit? 16 c = some n) :
    ∃ b, String.utf8EncodeChar c = [b] ∧ hexValue? b = some (UInt8.ofNat n) := by
  have hascii : c.toNat < 128 := by
    have hsome := (Option.filter_eq_some_iff.1 h).1
    split at hsome
    · omega
    · split at hsome
      · omega
      · split at hsome
        · omega
        · cases hsome
  refine ⟨UInt8.ofNat c.toNat, utf8EncodeChar_of_ascii hascii, ?_⟩
  have hchar : Char.ofNat (UInt8.ofNat c.toNat).toNat = c := by
    rw [UInt8.toNat_ofNat', Nat.mod_eq_of_lt (by omega), Char.ofNat_toNat]
  rw [hexValue?_eq, hchar, h, Option.map_some]

theorem decodeBytes_append {s : Bytes} (h : 37 ∉ s) (rest : Bytes) :
    decodeBytes (s ++ rest) = s ++ decodeBytes rest := by
  induction s with
  | nil => rfl
  | cons b s ih =>
    rw [List.mem_cons, not_or] at h
    rw [List.cons_append, decodeBytes_cons_of_ne (Ne.symm h.1), ih h.2, List.cons_append]

theorem percent_notMem_utf8EncodeChar {c : Char} (h : c ≠ '%') :
    37 ∉ String.utf8EncodeChar c := by
  intro hmem
  have hutf8 : (37 : UInt8) ∈ utf8 (String.ofList [c]) := by
    rw [utf8_ofList, List.flatMap_singleton]
    exact hmem
  rw [mem_utf8_iff (by decide), String.toList_ofList, List.mem_singleton] at hutf8
  exact h hutf8.symm

theorem decodes_decode? :
    Decodes decode? fun cs => decodeBytes (cs.flatMap String.utf8EncodeChar) := by
  constructor
  · rw [List.flatMap_nil, decodeBytes]
  · intro high low h l hhigh hlow cs
    obtain ⟨b, hb, hvalue⟩ := utf8EncodeChar_of_digit? hhigh
    obtain ⟨b', hb', hvalue'⟩ := utf8EncodeChar_of_digit? hlow
    have hpercent : String.utf8EncodeChar '%' = [37] := by rfl
    have hbyte : UInt8.ofNat (16 * h + l) = UInt8.ofNat h * 16 + UInt8.ofNat l := by
      rw [UInt8.ofNat_add, UInt8.ofNat_mul, UInt8.mul_comm]
      rfl
    rw [List.flatMap_cons, List.flatMap_cons, List.flatMap_cons, hb, hb', hpercent,
      List.singleton_append, List.singleton_append, List.singleton_append, decodeBytes, hvalue,
      hvalue', hbyte]
  · intro c hc cs
    rw [List.flatMap_cons, decodeBytes_append (percent_notMem_utf8EncodeChar hc)]
  · intro s
    rw [decode?, utf8_eq]

/-! ### Agreement -/

/-- The encoders write one form of a text: `encode` as it is, `encodeKey` with its shortcut and
`append` behind what is there.  The form is one that can be written, and reads as the text. -/
structure Agree (decode : String → Option String) (buffer s : String) : Prop where
  key : encodeKey s = encode .kept s
  query : append buffer s = buffer ++ encode .encoded s
  keyWritten : IsWritten .kept (encodeKey s).toList
  queryWritten : IsWritten .encoded (encode .encoded s).toList
  decodeKey : decode (encodeKey s) = some s
  decodeQuery : decode (encode .encoded s) = some s

/-- **Three encoders, one written form,** whatever the text and whoever decodes it. -/
theorem encoders_agree {decode : String → Option String} {bytes : List Char → Bytes}
    (h : Decodes decode bytes) (buffer s : String) : Agree decode buffer s := by
  have hkey : encodeKey s = encode .kept s := encodeKey_eq s
  constructor
  · exact hkey
  · exact append_eq buffer s
  · rw [hkey]
    exact isWritten_encode .kept s
  · exact isWritten_encode .encoded s
  · rw [hkey]
    exact h.decode_encode .kept s
  · exact h.decode_encode .encoded s

/-- Of this text each encoder leaves something as it is that another one escapes, and the
percent sign looks like the beginning of an escape. -/
theorem encoders_agree_mixed_text :
    encodeKey "a/%2f é~" = "a/%252f%20%C3%A9~" ∧
      append "q=" "a/%2f é~" = "q=a%2F%252f%20%C3%A9~" ∧
      Agree decode? "q=" "a/%2f é~" :=
  ⟨by decide +kernel, by decide +kernel, encoders_agree decodes_decode? "q=" "a/%2f é~"⟩

end ObjectStore.Percent
