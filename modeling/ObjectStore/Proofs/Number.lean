import ObjectStore.Proofs.Xml.Trim
import ObjectStore.Xml.Field
/-!
# Numbers that were written

A number is written without blanks and without a sign, and it is read back from its digits: the
value grows digit by digit to the number itself and to nothing larger, so no bound above the
number is met on the way (`readDecimal_toString`).
-/

namespace ObjectStore

namespace Text

theorem digit?_digitChar {d : Nat} (h : d < 10) : digit? 10 d.digitChar = some d := by
  have hall : ∀ d < 10, digit? 10 d.digitChar = some d := by decide
  exact hall d h

theorem readDigitsFrom_cons {base bound value d : Nat} {c : Char} (hc : digit? base c = some d)
    (hbound : value * base + d < bound) (rest : List Char) :
    readDigitsFrom base bound value (c :: rest) =
      readDigitsFrom base bound (value * base + d) rest := by
  rw [readDigitsFrom, hc]
  exact if_pos hbound

/-- The digits of a number are read as the number, whatever follows them. -/
theorem readDigitsFrom_toDigits {n bound : Nat} (h : n < bound) (rest : List Char) :
    readDigitsFrom 10 bound 0 (Nat.toDigits 10 n ++ rest) = readDigitsFrom 10 bound n rest := by
  induction n using Nat.strongRecOn generalizing rest with
  | _ n ih =>
    rw [Nat.toDigits_eq_if (by decide)]
    split
    · next hlt =>
      rw [List.singleton_append, readDigitsFrom_cons (digit?_digitChar hlt) (by omega),
        Nat.zero_mul, Nat.zero_add]
    · next hge =>
      have hdigit := digit?_digitChar (Nat.mod_lt n (by decide : 0 < 10))
      have hvalue : n / 10 * 10 + n % 10 = n := Nat.div_add_mod' n 10
      rw [List.append_assoc, ih (n / 10) (by omega) (by omega), List.singleton_append,
        readDigitsFrom_cons hdigit (by omega), hvalue]

theorem isDigit_of_mem_toString {n : Nat} {c : Char} (h : c ∈ (toString n).toList) :
    c.isDigit = true := by
  rw [Nat.toString_eq_ofList_toDigits, String.toList_ofList] at h
  exact Nat.isDigit_of_mem_toDigits (by decide) (by decide) h

/-- **A number that was written is read back.** -/
theorem readDecimal_toString {n bound : Nat} (h : n < bound) :
    readDecimal bound (toString n) = .ok n := by
  have hread := readDigitsFrom_toDigits h []
  have hdigit : ∀ c ∈ Nat.toDigits 10 n, c.isDigit = true :=
    fun c hc => Nat.isDigit_of_mem_toDigits (by decide) (by decide) hc
  rw [List.append_nil, readDigitsFrom] at hread
  rw [readDecimal, Nat.toString_eq_ofList_toDigits, String.toList_ofList]
  rcases hdigits : Nat.toDigits 10 n with _ | ⟨c, cs⟩
  · exact absurd hdigits Nat.toDigits_ne_nil
  · rw [hdigits] at hread hdigit
    have hplus : c ≠ '+' := by
      rintro rfl
      exact absurd (hdigit '+' List.mem_cons_self) (by decide)
    split
    · next heq => cases heq
    · next heq =>
      cases heq
      exact absurd rfl hplus
    · next heq =>
      cases heq
      exact absurd rfl hplus
    · exact hread

end Text

namespace Xml

theorem trimmed_toString (n : Nat) : trimmed (toString n) = toString n := by
  have hblank : ∀ c ∈ (toString n).toList, isBlankChar c = false := by
    intro c hc
    have hdigit := Text.isDigit_of_mem_toString hc
    cases hblank : isBlankChar c with
    | false => rfl
    | true =>
      simp only [isBlankChar, Bool.or_eq_true, decide_eq_true_eq] at hblank
      rcases hblank with ((rfl | rfl) | rfl) | rfl <;> revert hdigit <;> decide
  rw [trimmed_eq_self_iff]
  exact ⟨fun c hc => hblank c (List.mem_of_mem_head? hc),
    fun c hc => hblank c (List.mem_of_mem_getLast? hc)⟩

theorem readUInt32_toString (element : String) (n : UInt32) :
    readUInt32 element (toString n.toNat) = .ok n := by
  rw [readUInt32, Text.readDecimal_toString n.toNat_lt]
  show Except.ok n.toNat.toUInt32 = .ok n
  rw [Nat.toUInt32, UInt32.ofNat_toNat]

theorem readUInt64_toString (element : String) (n : UInt64) :
    readUInt64 element (toString n.toNat) = .ok n := by
  rw [readUInt64, Text.readDecimal_toString n.toNat_lt]
  show Except.ok n.toNat.toUInt64 = .ok n
  rw [Nat.toUInt64, UInt64.ofNat_toNat]

end Xml

end ObjectStore
