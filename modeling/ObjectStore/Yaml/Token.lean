import ObjectStore.Table
import ObjectStore.Yaml.BlockScalar
import ObjectStore.Yaml.Scalar
import ObjectStore.Yaml.Tag
/-!
# Tokens of a document

A document is cut into tokens from left to right.  `Scan` is how far that has come.

A key is written like any other node, and only the colon behind it tells what it was.  So the
scan remembers where the last key may have begun, in every open bracket, and **the colon puts
the marks of a key and of its mapping back to that place.**  A key ends in the line in which it
began and is not much longer than `Candidate.reach`.

Block collections are told by columns: a token further right than the innermost one may open
another, and a token further left closes those that begin right of it.
-/

namespace ObjectStore.Yaml

inductive Style where
  | plain
  | quoted
  | literal
  | folded
  deriving Repr, DecidableEq

/-- What a document is made of.  An anchor has a number instead of its name. -/
inductive Token where
  | directive (d : Directive)
  | documentStart
  | documentEnd
  | blockSequence
  | blockMapping
  | blockEnd
  | flowSequence
  | flowSequenceEnd
  | flowMapping
  | flowMappingEnd
  | entry
  | comma
  | key
  | value
  | alias (number : Nat)
  | anchor (number : Nat)
  | tag (t : TagText)
  | scalar (text : String) (style : Style)
  deriving Repr, DecidableEq

/-! ### The scan -/

/-- A place at which a key may have begun. -/
structure Candidate where
  place : Place
  /-- How many tokens stand in front of it. -/
  number : Nat
  /-- Whether nothing but a key can stand there. -/
  required : Bool

namespace Candidate

/-- How many bytes may stand between the start of a key and its colon. -/
def reach : Nat := 1024

/-- Whether a colon comes too late to end a key. -/
def isOver (k : Candidate) (p : Place) : Bool :=
  k.place.line < p.line || k.place.offset + reach < p.offset

end Candidate

/-- How far a document has been cut into tokens. -/
structure Scan where
  place : Place
  /-- The tokens, the last one first. -/
  tokens : List Token := []
  count : Nat := 0
  /-- Whether a key may begin at the place. -/
  keyAllowed : Bool := true
  /-- Where a key may have begun inside the innermost bracket. -/
  candidate : Option Candidate := none
  /-- Where one may have begun around each open bracket, the innermost one first. -/
  outer : List (Option Candidate) := []
  /-- The least column of what belongs to the content of each open block collection, the
  innermost one first. -/
  margins : List Nat := []
  /-- The numbers of the anchors. -/
  anchors : Table Nat := Table.empty

namespace Scan

def flow (s : Scan) : Bool := !s.outer.isEmpty

def margin (s : Scan) : Nat := s.margins.head?.getD 0

/-- Put a token after the first `n`. -/
def insert (s : Scan) (n : Nat) (t : Token) : Scan :=
  let later := s.count - n
  { s with
    tokens := s.tokens.take later ++ t :: s.tokens.drop later
    count := s.count + 1 }

def took (s : Scan) (t : Token) (rest : List Char) (keyAllowed : Bool) : Scan :=
  { s with
    place := s.place.before rest
    tokens := t :: s.tokens
    count := s.count + 1
    keyAllowed }

/-! ### Keys -/

def dropKey? (s : Scan) : Option Scan :=
  if s.candidate.any (·.required) then none else some { s with candidate := none }

/-- Give up all the places whose colon would come too late. -/
def dropOver? (s : Scan) : Option Scan :=
  let isOver (k : Candidate) := k.isOver s.place
  if (s.candidate :: s.outer).any (·.any fun k => k.required && isOver k) then none
  else
    some { s with
      candidate := s.candidate.filter (!isOver ·)
      outer := s.outer.map (·.filter (!isOver ·)) }

/-- Remember the place, if a key may begin there. -/
def saveKey? (s : Scan) : Option Scan :=
  if s.keyAllowed then do
    let s ← s.dropKey?
    let required := !s.flow && s.margin = s.place.column + 1
    return { s with candidate := some { place := s.place, number := s.count, required } }
  else some s

/-! ### Block collections -/

/-- Open a block collection in a column, unless it is open already; its mark is put after the
first `n` tokens. -/
def openBlock (s : Scan) (n column : Nat) (t : Token) : Scan :=
  if !s.flow && s.margin ≤ column then { s.insert n t with margins := (column + 1) :: s.margins }
  else s

/-- Close the block collections whose content does not go as far left as `limit`. -/
def closeBlocks (s : Scan) (limit : Nat) : Scan :=
  if s.flow then s
  else
    let closed := s.margins.takeWhile (limit < ·)
    { s with
      tokens := List.replicate closed.length .blockEnd ++ s.tokens
      count := s.count + closed.length
      margins := s.margins.drop closed.length }

/-! ### Gaps between tokens -/

/-- What follows a gap between tokens, and whether a key may begin there.  A tab is no part of
the gap where a key may begin. -/
def gapFrom (flow : Bool) : (keyAllowed comment : Bool) → List Char → Bool × List Char
  | keyAllowed, _, [] => (keyAllowed, [])
  | keyAllowed, comment, c :: r =>
    if isBreak c then gapFrom flow (keyAllowed || !flow) false r
    else if comment || c = '#' then gapFrom flow keyAllowed true r
    else if c = ' ' || (c = '\t' && (flow || !keyAllowed)) then gapFrom flow keyAllowed false r
    else (keyAllowed, c :: r)

def toToken? (s : Scan) : Option Scan := do
  let (keyAllowed, rest) := gapFrom s.flow s.keyAllowed false s.place.rest
  let s ← { s with place := s.place.before rest, keyAllowed : Scan }.dropOver?
  return s.closeBlocks (s.place.column + 1)

/-! ### Reading a token -/

def readMark? (s : Scan) (c : Char) (r : List Char) : Option Scan :=
  match c with
  | '[' => do
    let s ← s.saveKey?
    return { s with candidate := none, outer := s.candidate :: s.outer : Scan }.took
      .flowSequence r true
  | '\x7b' => do
    let s ← s.saveKey?
    return { s with candidate := none, outer := s.candidate :: s.outer : Scan }.took
      .flowMapping r true
  | ']' => do
    let s ← s.dropKey?
    return { s with candidate := s.outer.head?.join, outer := s.outer.tail : Scan }.took
      .flowSequenceEnd r false
  | '\x7d' => do
    let s ← s.dropKey?
    return { s with candidate := s.outer.head?.join, outer := s.outer.tail : Scan }.took
      .flowMappingEnd r false
  | ',' => s.dropKey?.map fun s => s.took .comma r true
  | '-' =>
    if s.flow || s.keyAllowed then
      (s.openBlock s.count s.place.column .blockSequence).dropKey?.map fun s =>
        s.took .entry r true
    else none
  | '?' =>
    if s.flow || s.keyAllowed then
      (s.openBlock s.count s.place.column .blockMapping).dropKey?.map fun s =>
        s.took .key r (!s.flow)
    else none
  | ':' =>
    match s.candidate with
    | some k =>
      let s := (s.insert k.number .key).openBlock k.number k.place.column .blockMapping
      some ({ s with candidate := none }.took .value r false)
    | none =>
      if s.flow || s.keyAllowed then
        some ((s.openBlock s.count s.place.column .blockMapping).took .value r (!s.flow))
      else none
  | _ => none

def beginsMark (flow : Bool) : List Char → Bool
  | [] => false
  | c :: r =>
    isFlowMark c || (c = '-' && endsWord r) || ((c = '?' || c = ':') && (flow || endsWord r))

/-- Read an alias, an anchor, a tag or a scalar. -/
def readContent? (s : Scan) (c : Char) (r : List Char) : Option Scan :=
  let scalar (s : Scan) (style : Style) (keyAllowed : Bool) (found : List Char × List Char) :=
    s.took (.scalar (String.ofList found.1.reverse) style) found.2 keyAllowed
  let column := s.place.column
  if (c = '|' || c = '>') && !s.flow then do
    let s ← s.dropKey?
    let found ← blockScalar? (c = '|') s.margin r
    return scalar s (if c = '|' then .literal else .folded) true found
  else do
    let s ← s.saveKey?
    match c with
    | '*' => do
      let (name, rest) ← anchorName? r
      let n ← s.anchors.get? name
      return s.took (.alias n) rest false
    | '&' => do
      let (name, rest) ← anchorName? r
      let n := s.anchors.size
      return { s with anchors := s.anchors.insert name n : Scan }.took (.anchor n) rest false
    | '!' => (tag? s.flow (c :: r)).map fun (t, rest) => s.took (.tag t) rest false
    | '\'' => (singleFrom false (column + 1) [] .none r).map (scalar s .quoted false)
    | '"' => (doubleFrom .none (column + 1) [] .none r).map (scalar s .quoted false)
    | _ => do
      if !beginsPlain s.flow (c :: r) then none
      let (text, gap, rest) ← plainFrom s.flow s.margin column [] .none (c :: r)
      return scalar s .plain gap.isLineStart (text, rest)

def read? (s : Scan) : Option Scan :=
  let head := s.place.column = 0
  match s.place.rest with
  | [] => none
  | c :: r =>
    if head && c = '%' then do
      let s ← (s.closeBlocks 0).dropKey?
      let (d, rest) ← Directive.read? r
      return s.took (.directive d) (← BlockHeader.afterLine? rest) false
    else if head && separates (c :: r) then
      (s.closeBlocks 0).dropKey?.map fun s =>
        s.took (if c = '-' then .documentStart else .documentEnd) (r.drop 2) false
    else if beginsMark s.flow (c :: r) then s.readMark? c r
    else s.readContent? c r

def finish? (s : Scan) : Option (List Token) :=
  (s.closeBlocks 0).dropKey?.map fun s => s.tokens.reverse

/-- Cut what is left into tokens, and give all of them. -/
def finishFrom? (s : Scan) : Option (List Token) := do
  let t ← s.toToken?
  if t.place.rest.isEmpty then t.finish?
  else
    let next ← t.read?
    if next.place.rest.length < s.place.rest.length then finishFrom? next else none
termination_by s.place.rest.length

end Scan

/-- The mark that may stand in front of a text to tell in which order its bytes come. -/
def byteOrderMark : Char := Char.ofNat 0xFEFF

/-- The tokens of a text in which line feeds and separators end the lines.  A byte order mark in
front of the text is no token, but it takes up the first column. -/
def tokens? (text : List Char) : Option (List Token) :=
  let start : Place := { rest := text }
  Scan.finishFrom? { place := if text.head? = some byteOrderMark then start.next else start }

end ObjectStore.Yaml
