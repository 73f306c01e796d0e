import ObjectStore.Xml.Escape
import ObjectStore.Xml.Token
/-!
# Elements in document order

A document is read as the sequence of its element starts and ends.  An end carries the text
collected since the last start: runs of text with their references replaced and CDATA
sections as they are, appended to each other.  Readers see local names, the part after the
first colon.

**Reading never guesses:** `Document.read` fails if an end tag does not match, if an element
is still open at the end of the document, or if anything in between cannot be read.
-/

namespace ObjectStore.Xml

/-- The start or the end of an element, by its local name. -/
inductive Node where
  | opened (name : String)
  | closed (name text : String)
  deriving Repr, DecidableEq

/-- The part of a name after its first colon. -/
def localPart (name : Bytes) : Bytes :=
  match name.dropWhile (· != 58) with
  | [] => name
  | _ :: rest => rest

/-- A name as text; no element is recognised by a name that is not UTF-8. -/
def nameText (name : Bytes) : String := (Text.Utf8.decode? name).getD ""

/-- The reader's state between two tokens: the names of the open elements, the text
collected, and the local name of the first element. -/
structure Reading where
  opened : List Bytes
  text : String
  root : Option String
  deriving Repr

namespace Reading

def start : Reading := ⟨[], "", none⟩

/-- Note the name of the first element. -/
def withRoot (r : Reading) (name : Bytes) : Except Fault Reading :=
  match r.root with
  | some _ => .ok r
  | none =>
    match Text.Utf8.decode (localPart name) with
    | .ok root => .ok { r with root := some root }
    | .error fault => .error (.notUtf8 fault)

def runText (run : Bytes) : Except Fault String :=
  match Text.Utf8.decode run with
  | .error fault => .error (.textNotUtf8 fault)
  | .ok s => (unescape s.toList).map String.ofList

/-- Read one token: the new state and the nodes that the token is. -/
def step (r : Reading) : Token → Except Fault (Reading × List Node)
  | .start name => do
    let r ← r.withRoot name
    return ({ r with opened := name :: r.opened, text := "" },
      [.opened (nameText (localPart name))])
  | .empty name => do
    let r ← r.withRoot name
    let shown := nameText (localPart name)
    return ({ r with text := "" }, [.opened shown, .closed shown ""])
  | .text run => do
    let s ← runText run
    return ({ r with text := r.text ++ s }, [])
  | .cdata content =>
    match Text.Utf8.decode content with
    | .ok s => .ok ({ r with text := r.text ++ s }, [])
    | .error fault => .error (.notUtf8 fault)
  | .finish name =>
    match r.opened with
    | [] => .error (.unmatchedEnd (nameText name))
    | expected :: opened =>
      if name = expected then
        .ok ({ r with opened := opened, text := "" },
          [.closed (nameText (localPart name)) r.text])
      else .error (.mismatchedEnd (nameText expected) (nameText name))

end Reading

/-- The nodes of a document up to its end or to the first fault, and how it ends: with the
local name of its first element, or with the fault. -/
structure Document where
  nodes : List Node
  root : Except Fault (Option String)
  deriving Repr

namespace Document

/-- Read tokens; `fault` is what ended them. -/
def ofTokens (fault : Option Fault) (r : Reading) : List Token → Document
  | [] =>
    match fault with
    | some f => ⟨[], .error f⟩
    | none => ⟨[], if r.opened.isEmpty then .ok r.root else .error .cutOff⟩
  | t :: ts =>
    match r.step t with
    | .error f => ⟨[], .error f⟩
    | .ok (r, nodes) =>
      let rest := ofTokens fault r ts
      ⟨nodes ++ rest.nodes, rest.root⟩

def withoutMark : Bytes → Bytes
  | 0xEF :: 0xBB :: 0xBF :: s => s
  | s => s

def ofBytes (s : Bytes) : Document :=
  let (ts, fault) := tokens (withoutMark s)
  ofTokens fault Reading.start ts

/-- Visit the nodes from left to right.  A fault of the visit comes before a later fault of
the document; the result is what the visit collected, with the name of the first element. -/
def visit {σ : Type} (d : Document) (f : σ → Node → Except Fault σ) (start : σ) :
    Except Fault (σ × Option String) := do
  let result ← d.nodes.foldlM f start
  let root ← d.root
  return (result, root)

end Document

/-- Whether the first element has the expected name. -/
def expectRoot (root : Option String) (expected : String) : Except Fault Unit :=
  match root with
  | none => .error (.noRoot expected)
  | some name => if name = expected then .ok () else .error (.wrongRoot expected name)

/-- Read a byte string as a document whose first element is `expected`. -/
def readDocument {σ : Type} (expected : String) (f : σ → Node → Except Fault σ) (start : σ)
    (s : Bytes) : Except Fault σ := do
  let (result, root) ← (Document.ofBytes s).visit f start
  expectRoot root expected
  return result

end ObjectStore.Xml
