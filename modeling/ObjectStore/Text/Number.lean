/-!
# Reading numbers

A number is read digit by digit from the left, and the first digit that does not fit decides
the fault: a character that is no digit, or a value that grows past the bound.
-/

namespace ObjectStore.Text

inductive NumberFault where
  | noDigits
  | digit
  | tooLarge
  deriving Repr, DecidableEq

def NumberFault.message : NumberFault → String
  | .noDigits => "cannot parse integer from empty string"
  | .digit => "invalid digit found in string"
  | .tooLarge => "number too large to fit in target type"

/-- The value of a digit in a base of at most sixteen. -/
def digit? (base : Nat) (c : Char) : Option Nat :=
  let n := c.toNat
  let v :=
    if 48 ≤ n ∧ n ≤ 57 then some (n - 48)
    else if 65 ≤ n ∧ n ≤ 70 then some (n - 55)
    else if 97 ≤ n ∧ n ≤ 102 then some (n - 87)
    else none
  v.filter (· < base)

/-- Read on after digits that gave `value`. -/
def readDigitsFrom (base bound value : Nat) : List Char → Except NumberFault Nat
  | [] => .ok value
  | c :: r =>
    match digit? base c with
    | none => .error .digit
    | some d =>
      let next := value * base + d
      if next < bound then readDigitsFrom base bound next r else .error .tooLarge

/-- A number below `bound` in the given base. -/
def readDigits (base bound : Nat) : List Char → Except NumberFault Nat
  | [] => .error .noDigits
  | cs => readDigitsFrom base bound 0 cs

/-- A decimal number below `bound`; a plus sign may stand in front of it. -/
def readDecimal (bound : Nat) (s : String) : Except NumberFault Nat :=
  match s.toList with
  | [] => .error .noDigits
  | ['+'] => .error .digit
  | '+' :: cs => readDigits 10 bound cs
  | cs => readDigits 10 bound cs

end ObjectStore.Text
