import ObjectStore.Text.Number
import ObjectStore.Yaml.Place
/-!
# Scalars in blocks

A block scalar is made of the indented lines below its header.  Its lines are taken as they
are, or folded: **a line end between two lines that both begin without a blank is then a
space.**  What becomes of the line ends after the last line the header says.
-/

namespace ObjectStore.Yaml

/-- What becomes of the line ends after the last line. -/
inductive Chomping where
  | strip
  | clip
  | keep
  deriving Repr, DecidableEq

structure BlockHeader where
  literal : Bool
  chomping : Chomping := .clip
  /-- How far its lines are indented; by default the first line decides. -/
  indent : Option Nat := none
  deriving Repr, DecidableEq

namespace BlockHeader

/-- Read what follows the mark of a block scalar, in either order and each at most once. -/
def readMarks (h : BlockHeader) : List Char → Option (BlockHeader × List Char)
  | c :: r =>
    if c = '+' || c = '-' then
      let h := { h with chomping := if c = '+' then .keep else .strip }
      match r with
      | d :: r' =>
        if d.isDigit then if d = '0' then none else some ({ h with indent := Text.digit? 10 d }, r')
        else some (h, r)
      | [] => some (h, r)
    else if c.isDigit then
      if c = '0' then none
      else
        let h := { h with indent := Text.digit? 10 c }
        match r with
        | '+' :: r' => some ({ h with chomping := .keep }, r')
        | '-' :: r' => some ({ h with chomping := .strip }, r')
        | _ => some (h, r)
    else some (h, c :: r)
  | [] => some (h, [])

/-- What follows the line in which only blanks and a comment are left. -/
def afterLine? (text : List Char) : Option (List Char) :=
  let text := text.dropWhile isBlank
  let text := if text.head? = some '#' then text.dropWhile (!isBreak ·) else text
  match text with
  | [] => some []
  | c :: r => if isBreak c then some r else none

end BlockHeader

/-! ### Lines -/

def linesOf : List Char → List (List Char × Option Char)
  | [] => [([], none)]
  | c :: r =>
    if isBreak c then ([], some c) :: linesOf r
    else
      match linesOf r with
      | [] => [([c], none)]
      | (l, last) :: ls => (c :: l, last) :: ls

def spaces (l : List Char) : Nat := (l.takeWhile (· = ' ')).length

/-- The indentation that the first line with anything in it decides: `widest` is the longest of
the lines of spaces before it.  A tab cannot be indentation. -/
def indentFrom (widest : Nat) : List (List Char × Option Char) → Option Nat
  | [] => some widest
  | (l, last) :: ls =>
    let n := spaces l
    match l.drop n with
    | [] => if last.isSome then indentFrom (max widest n) ls else some (max widest n)
    | c :: _ => if c = '\t' then none else some (max widest n)

structure BlockText where
  /-- The text, the last character first. -/
  text : List Char := []
  /-- The end of the last line, unless it is part of the text. -/
  lineEnd : Option Char := none
  /-- The ends of the empty lines after it, the last one first. -/
  further : List Char := []
  /-- Whether the last line began with a blank. -/
  afterBlank : Bool := false
  /-- How many characters have been read. -/
  length : Nat := 0

namespace BlockText

def lineEndText (b : BlockText) (literal : Bool) (line : List Char) : List Char :=
  let folds := !literal && b.lineEnd = some '\n' && !b.afterBlank && !(line.head?.any isBlank)
  if !folds then b.lineEnd.toList else if b.further.isEmpty then [' '] else []

/-- Take in a line of the scalar without its indentation. -/
def addLine (b : BlockText) (literal : Bool) (line : List Char) (last : Option Char) (n : Nat) :
    BlockText :=
  { text := line.reverse ++ (b.further ++ (b.lineEndText literal line ++ b.text))
    lineEnd := last
    afterBlank := line.head?.any isBlank
    length := b.length + n + line.length + (if last.isSome then 1 else 0) }

/-- Read the lines that are indented by `indent`. -/
def addLines (b : BlockText) (literal : Bool) (indent : Nat) :
    List (List Char × Option Char) → Option BlockText
  | [] => some b
  | (l, last) :: ls =>
    let n := min indent (spaces l)
    match l.drop n, last with
    | [], none => some { b with length := b.length + n }
    | [], some c =>
      addLines { b with further := c :: b.further, length := b.length + n + 1 } literal indent ls
    | c :: r, _ =>
      if n < indent then if c = '\t' then none else some { b with length := b.length + n }
      else if last.isSome then addLines (b.addLine literal (c :: r) last n) literal indent ls
      else some (b.addLine literal (c :: r) last n)

/-- The whole text, the last character first. -/
def chomped (b : BlockText) : Chomping → List Char
  | .strip => b.text
  | .clip => b.lineEnd.toList ++ b.text
  | .keep => b.further ++ (b.lineEnd.toList ++ b.text)

end BlockText

/-- Read a block scalar from behind its mark: its text, the last character first, and what
follows it.  Its lines are indented by at least `margin`. -/
def blockScalar? (literal : Bool) (margin : Nat) (text : List Char) :
    Option (List Char × List Char) := do
  let (h, rest) ← BlockHeader.readMarks { literal } text
  let rest ← BlockHeader.afterLine? rest
  let lines := linesOf rest
  let indent ←
    match h.indent with
    | some n => some (margin - 1 + n)
    | none => (indentFrom 0 lines).map fun n => max n (max margin 1)
  let b ← BlockText.addLines {} literal indent lines
  return (b.chomped h.chomping, rest.drop b.length)

end ObjectStore.Yaml
