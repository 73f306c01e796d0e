/-!
# Blanks and trimming

Two notions of a blank are in use.  `isBlank` is the White_Space property, by which header
values and paths are trimmed; `isXmlBlank` is the smaller set of the XML grammar, which
works on bytes because all four of its members are ASCII.  `trimBoth` removes a class
from both ends of a list.
-/

namespace ObjectStore.Text

/-- The characters with the White_Space property. -/
def isBlank (c : Char) : Bool :=
  let n := c.toNat
  (9 ≤ n && n ≤ 13) || n = 0x20 || n = 0x85 || n = 0xA0 || n = 0x1680 ||
    (0x2000 ≤ n && n ≤ 0x200A) || n = 0x2028 || n = 0x2029 || n = 0x202F || n = 0x205F ||
    n = 0x3000

theorem isBlank_of_isWhitespace {c : Char} (h : c.isWhitespace = true) : isBlank c = true := by
  simp only [Char.isWhitespace, Bool.or_eq_true, decide_eq_true_eq] at h
  rcases h with ((h | h) | h) | h <;> subst h <;> decide

/-- The blanks of the XML grammar: space, tab, carriage return and line feed. -/
def isXmlBlank (b : UInt8) : Bool := b = 0x20 || b = 0x09 || b = 0x0D || b = 0x0A

def trimEnd {α : Type} (p : α → Bool) : List α → List α
  | [] => []
  | a :: l =>
    match trimEnd p l with
    | [] => if p a then [] else [a]
    | r => a :: r

/-- `l` without the members of `p` at its two ends. -/
def trimBoth {α : Type} (p : α → Bool) (l : List α) : List α :=
  trimEnd p (l.dropWhile p)

def trim (s : String) : String := String.ofList (trimBoth isBlank s.toList)

end ObjectStore.Text
