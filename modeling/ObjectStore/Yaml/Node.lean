import ObjectStore.Yaml.Token
/-!
# Nodes of a document

A document is one node: a scalar, a sequence, a mapping, or an alias of a node that carries an
anchor.  `Node.ofTokens?` reads it off the tokens.

**What is left out is an empty scalar:** an item behind its dash, a key or a value behind its
mark, and everything behind an anchor or a tag.  Every reader takes fuel, of which no document
needs more than a multiple of the number of its tokens.
-/

namespace ObjectStore.Yaml

inductive Node where
  | alias (number : Nat)
  | scalar (anchor : Option Nat) (tag : Option Bytes) (text : String) (style : Style)
  | sequence (anchor : Option Nat) (items : List Node)
  | mapping (anchor : Option Nat) (entries : List (Node × Node))
  deriving Inhabited

namespace Node

/-- The node of a place where nothing is written. -/
def empty : Node := .scalar none none "" .plain

/-! ### Anchors -/

def anchor? : Node → Option Nat
  | .alias _ => none
  | .scalar a _ _ _ => a
  | .sequence a _ => a
  | .mapping a _ => a

def anchoredSelf (n : Node) : List (Nat × Node) := n.anchor?.toList.map fun a => (a, n)

mutual

/-- The nodes that carry an anchor, each in front of those inside it. -/
def anchored : Node → List (Nat × Node)
  | .alias _ => []
  | .scalar a tag text style => (Node.scalar a tag text style).anchoredSelf
  | .sequence a items => (Node.sequence a items).anchoredSelf ++ anchoredItems items
  | .mapping a entries => (Node.mapping a entries).anchoredSelf ++ anchoredEntries entries

def anchoredItems : List Node → List (Nat × Node)
  | [] => []
  | n :: ns => n.anchored ++ anchoredItems ns

def anchoredEntries : List (Node × Node) → List (Nat × Node)
  | [] => []
  | (key, n) :: rest => key.anchored ++ (n.anchored ++ anchoredEntries rest)

end

end Node

/-! ### Properties -/

structure Properties where
  anchor : Option Nat := none
  tag : Option Bytes := none

namespace Properties

/-- Read an anchor and a tag, in either order; the handle of the tag has to be known. -/
def read? (handles : List (String × Bytes)) :
    List Token → Option (Properties × List Token)
  | .anchor a :: .tag t :: ts => do return ({ anchor := a, tag := ← t.resolve? handles }, ts)
  | .tag t :: .anchor a :: ts => do return ({ anchor := a, tag := ← t.resolve? handles }, ts)
  | .anchor a :: ts => some ({ anchor := a }, ts)
  | .tag t :: ts => do return ({ tag := ← t.resolve? handles }, ts)
  | ts => some ({}, ts)

def scalar (p : Properties) (text : String) (style : Style) : Node :=
  .scalar p.anchor (p.tag.filter (· ≠ [tagMark])) text style

/-- The node that has properties and nothing else. -/
def alone? (p : Properties) : Option Node :=
  if p.anchor.isSome || p.tag.isSome then some (.scalar p.anchor p.tag "" .plain) else none

end Properties

/-! ### Reading -/

/-- The node that a reader finds, or an empty one in front of a token that ends it. -/
def orEmpty (ends : Token → Bool) (read : List Token → Option (Node × List Token))
    (ts : List Token) : Option (Node × List Token) :=
  if ts.head?.any ends then some (.empty, ts) else read ts

def Token.endsItem : Token → Bool
  | .entry => true
  | .blockEnd => true
  | _ => false

/-- The tokens that follow a key or a value of a block mapping. -/
def Token.endsEntry : Token → Bool
  | .key => true
  | .value => true
  | .blockEnd => true
  | _ => false

/-- The tokens that follow a key or a value in braces. -/
def Token.endsInBraces : Token → Bool
  | .comma => true
  | .flowMappingEnd => true
  | _ => false

/-- The tokens that follow a value in brackets. -/
def Token.endsInBrackets : Token → Bool
  | .comma => true
  | .flowSequenceEnd => true
  | _ => false

section

variable (handles : List (String × Bytes))

mutual

/-- A node.  Outside brackets and braces it may be a block collection, and where `dashes` says
so its items may begin in the column of the collection around it. -/
def node : Nat → (block dashes : Bool) → List Token → Option (Node × List Token)
  | 0, _, _, _ => none
  | _ + 1, _, _, .alias n :: ts => some (.alias n, ts)
  | fuel + 1, block, dashes, ts => do
    let (p, ts) ← Properties.read? handles ts
    match ts with
    | .scalar text style :: ts => return (p.scalar text style, ts)
    | .flowSequence :: ts => do
      let (items, ts) ← flowItems fuel ts
      return (.sequence p.anchor items, ts)
    | .flowMapping :: ts => do
      let (entries, ts) ← flowEntries fuel ts
      return (.mapping p.anchor entries, ts)
    | .entry :: _ =>
      if dashes then do
        let (items, ts) ← dashedItems fuel ts
        return (.sequence p.anchor items, ts)
      else return (← p.alone?, ts)
    | .blockSequence :: ts' =>
      if block then do
        let (items, ts) ← blockItems fuel ts'
        return (.sequence p.anchor items, ts)
      else return (← p.alone?, ts)
    | .blockMapping :: ts' =>
      if block then do
        let (entries, ts) ← blockEntries fuel ts'
        return (.mapping p.anchor entries, ts)
      else return (← p.alone?, ts)
    | _ => return (← p.alone?, ts)

def blockItems : Nat → List Token → Option (List Node × List Token)
  | 0, _ => none
  | _ + 1, .blockEnd :: ts => some ([], ts)
  | fuel + 1, .entry :: ts => do
    let (item, ts) ← orEmpty Token.endsItem (node fuel true false) ts
    let (items, ts) ← blockItems fuel ts
    return (item :: items, ts)
  | _ + 1, _ => none

/-- The items behind the dashes that follow one another. -/
def dashedItems : Nat → List Token → Option (List Node × List Token)
  | 0, _ => none
  | fuel + 1, .entry :: ts => do
    let (item, ts) ← orEmpty (fun t => t.endsItem || t.endsEntry) (node fuel true false) ts
    let (items, ts) ← dashedItems fuel ts
    return (item :: items, ts)
  | _ + 1, ts => some ([], ts)

/-- The entries of a block mapping up to its end. -/
def blockEntries : Nat → List Token → Option (List (Node × Node) × List Token)
  | 0, _ => none
  | _ + 1, .blockEnd :: ts => some ([], ts)
  | fuel + 1, .key :: ts => do
    let (key, ts) ← orEmpty Token.endsEntry (node fuel true true) ts
    let (value, ts) ←
      match ts with
      | .value :: ts => orEmpty Token.endsEntry (node fuel true true) ts
      | _ => some (.empty, ts)
    let (entries, ts) ← blockEntries fuel ts
    return ((key, value) :: entries, ts)
  | _ + 1, _ => none

/-- An item in brackets.  A key makes it a mapping with one entry; of a key that is left out,
the token that tells so is passed over. -/
def flowItem : Nat → List Token → Option (Node × List Token)
  | 0, _ => none
  | fuel + 1, .key :: ts => do
    let (key, ts) ←
      match ts with
      | .value :: ts => some (.empty, ts)
      | .comma :: ts => some (.empty, ts)
      | .flowSequenceEnd :: ts => some (.empty, ts)
      | _ => node fuel false false ts
    let (value, ts) ←
      match ts with
      | .value :: ts => orEmpty Token.endsInBrackets (node fuel false false) ts
      | _ => some (.empty, ts)
    return (.mapping none [(key, value)], ts)
  | fuel + 1, ts => node fuel false false ts

def flowItems : Nat → List Token → Option (List Node × List Token)
  | 0, _ => none
  | _ + 1, .flowSequenceEnd :: ts => some ([], ts)
  | fuel + 1, ts => do
    let (item, ts) ← flowItem fuel ts
    match ts with
    | .comma :: ts => do
      let (items, ts) ← flowItems fuel ts
      return (item :: items, ts)
    | .flowSequenceEnd :: ts => return ([item], ts)
    | _ => none

/-- An entry in braces; a node without the mark of a key has no value. -/
def flowEntry : Nat → List Token → Option ((Node × Node) × List Token)
  | 0, _ => none
  | fuel + 1, .key :: ts => do
    let (key, ts) ←
      orEmpty (fun t => t.endsInBraces || t = .value) (node fuel false false) ts
    let (value, ts) ←
      match ts with
      | .value :: ts => orEmpty Token.endsInBraces (node fuel false false) ts
      | _ => some (.empty, ts)
    return ((key, value), ts)
  | fuel + 1, ts => do
    let (key, ts) ← node fuel false false ts
    return ((key, .empty), ts)

def flowEntries : Nat → List Token → Option (List (Node × Node) × List Token)
  | 0, _ => none
  | _ + 1, .flowMappingEnd :: ts => some ([], ts)
  | fuel + 1, ts => do
    let (entry, ts) ← flowEntry fuel ts
    match ts with
    | .comma :: ts => do
      let (entries, ts) ← flowEntries fuel ts
      return (entry :: entries, ts)
    | .flowMappingEnd :: ts => return ([entry], ts)
    | _ => none

end

end

/-! ### Documents -/

/-- Read the directives at the head of a document: the handles that are known in it.  Each
directive may stand there once, and the version has to be one of the two that are read. -/
def handles? (versioned : Bool) (found : List (String × Bytes)) :
    List Token → Option (List (String × Bytes) × List Token)
  | .directive (.version major minor) :: ts =>
    if versioned || major ≠ 1 || (minor ≠ 1 && minor ≠ 2) then none else handles? true found ts
  | .directive (.handle name start) :: ts =>
    if (found.lookup name).isSome then none else handles? versioned ((name, start) :: found) ts
  | ts => some (found ++ defaultHandles, ts)

/-- Whether a token stands outside the node of a document. -/
def Token.isOutside : Token → Bool
  | .directive _ => true
  | .documentStart => true
  | .documentEnd => true
  | _ => false

/-- The node behind the head of a document, which is left out if nothing has been written. -/
def rootNode? (handles : List (String × Bytes)) (ts : List Token) :
    Option (Node × List Token) :=
  if ts.isEmpty then some (.empty, [])
  else orEmpty Token.isOutside (node handles (4 * ts.length + 4) true false) ts

/-- The node of a document, behind which there is no other document. -/
def Node.ofTokens? (ts : List Token) : Option Node := do
  let (handles, rest) ← handles? false [] ts
  let (n, rest) ←
    match rest with
    | .documentStart :: rest => rootNode? handles rest
    | .documentEnd :: _ => none
    | _ => if rest.length = ts.length then rootNode? handles rest else none
  if rest.all (· = .documentEnd) then return n else none

end ObjectStore.Yaml
