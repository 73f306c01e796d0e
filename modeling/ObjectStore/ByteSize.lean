/-!
# Sizes for people

A number of bytes is shown in the largest binary unit that it reaches: bytes are counted
exactly, up to ten units one decimal is given, and from ten units on none.  A count is first
rounded to 53 significant bits; ties go to the even neighbour throughout.
-/

namespace ObjectStore.ByteSize

/-- `num / den` rounded to the nearest whole number, a half to the even one. -/
def roundDiv (num den : Nat) : Nat :=
  let q := num / den
  let r := num % den
  if 2 * r < den then q
  else if den < 2 * r then q + 1
  else q + q % 2

/-- The nearest number of 53 significant bits. -/
def significant (n : Nat) : Nat :=
  let drop := n.log2 - 52
  roundDiv n (Nat.pow 2 drop) * Nat.pow 2 drop

/-- The size of the unit of a rank, in bytes. -/
def unitSize (rank : Nat) : Nat := Nat.pow 1024 rank

/-- The units with the least number of bytes that is shown in each.  A unit is entered when
the quotient of natural logarithms in double precision reaches its exponent, which for the
largest is the case three bytes early. -/
def units : List (Nat × String) :=
  [(unitSize 1, "KiB"), (unitSize 2, "MiB"), (unitSize 3, "GiB"), (unitSize 4, "TiB"),
    (unitSize 5 - 3, "PiB")]

def text (n : Nat) : String :=
  let reached := units.takeWhile (·.1 ≤ n)
  match reached.getLast? with
  | none => s!"{n}B"
  | some (_, name) =>
    let size := unitSize reached.length
    let m := significant n
    if 10 * size ≤ m then s!"{roundDiv m size}{name}"
    else
      let tenths := roundDiv (10 * m) size
      s!"{tenths / 10}.{tenths % 10}{name}"

end ObjectStore.ByteSize
