/-!
# Places in a document

A document is read from left to right.  A `Place` is what is left of it, with the line and the
column in which that begins and the number of bytes before it.

Lines end in more than one way.  `unifyLineEnds` leaves a line feed for most of them; **the two
separators U+2028 and U+2029 end a line and stay what they are.**
-/

namespace ObjectStore.Yaml

def isBreak (c : Char) : Bool := c = '\n' || c = Char.ofNat 0x2028 || c = Char.ofNat 0x2029

def isBlank (c : Char) : Bool := c = ' ' || c = '\t'

/-- The text in which a carriage return, alone or with a line feed behind it, and the control
for the next line are line feeds. -/
def unifyLineEnds : List Char → List Char
  | '\r' :: '\n' :: r => '\n' :: unifyLineEnds r
  | c :: r => (if c = '\r' || c = Char.ofNat 0x85 then '\n' else c) :: unifyLineEnds r
  | [] => []

def endsWord : List Char → Bool
  | [] => true
  | c :: _ => isBlank c || isBreak c

/-- Whether the text begins with one of the two words that stand between documents. -/
def separates : List Char → Bool
  | '-' :: '-' :: '-' :: r => endsWord r
  | '.' :: '.' :: '.' :: r => endsWord r
  | _ => false

/-- What is left of a document, and where it begins. -/
structure Place where
  rest : List Char
  /-- The number of bytes before it. -/
  offset : Nat := 0
  line : Nat := 0
  column : Nat := 0

namespace Place

def next (p : Place) : Place :=
  match p.rest with
  | [] => p
  | c :: r =>
    { rest := r
      offset := p.offset + c.utf8Size
      line := if isBreak c then p.line + 1 else p.line
      column := if isBreak c then 0 else p.column + 1 }

def skip : Nat → Place → Place
  | 0, p => p
  | n + 1, p => skip n p.next

/-- The place at which the given end of the document begins. -/
def before (p : Place) (rest : List Char) : Place := p.skip (p.rest.length - rest.length)

end Place

end ObjectStore.Yaml
