import ObjectStore.Bytes
import ObjectStore.Table
/-!
# Messages

Requests as they leave the library, and responses as they reach it.  A body that is sent may
be a stream of known length; a body that is received may break off.
-/

namespace ObjectStore

/-- Why reading or writing outside the program failed. -/
inductive InputFault where
  | connectionReset
  | noSuchFile
  /-- A folder where a file is wanted. -/
  | folder
  /-- A file where a folder is wanted. -/
  | notFolder
  | longName
  /-- An offset that no file reaches. -/
  | farOffset
  | notText
  | stated (reason : String)
  deriving Repr, DecidableEq

def InputFault.message : InputFault → String
  | .connectionReset => "connection reset by peer"
  | .noSuchFile => "No such file or directory (os error 2)"
  | .folder => "Is a directory (os error 21)"
  | .notFolder => "Not a directory (os error 20)"
  | .longName => "File name too long (os error 36)"
  | .farOffset => "Invalid argument (os error 22)"
  | .notText => "stream did not contain valid UTF-8"
  | .stated reason => reason

namespace Http

inductive Method where
  | get
  | head
  | put
  | post
  | delete
  | other (name : String)
  deriving Repr, DecidableEq

def Method.text : Method → String
  | .get => "GET"
  | .head => "HEAD"
  | .put => "PUT"
  | .post => "POST"
  | .delete => "DELETE"
  | .other name => name

def Method.ofText (s : String) : Method :=
  match s with
  | "GET" => .get
  | "HEAD" => .head
  | "PUT" => .put
  | "POST" => .post
  | "DELETE" => .delete
  | _ => .other s

/-- A sequence of bytes that arrives in pieces and may break off after them. -/
structure Stream where
  pieces : List Bytes
  fault : Option InputFault := none
  deriving Repr

def Stream.collect (s : Stream) : Except InputFault Bytes :=
  match s.fault with
  | some f => .error f
  | none => .ok s.pieces.flatten

inductive Body where
  | empty
  | buffered (content : Bytes)
  /-- A stream that is sent without being held in memory, with its declared length. -/
  | stream (length : UInt64) (source : Stream)

namespace Body

/-- Bytes as a body; no bytes are no body. -/
def ofBytes (b : Bytes) : Body := if b.isEmpty then .empty else .buffered b

def length : Body → Nat
  | .empty => 0
  | .buffered b => b.length
  | .stream n _ => n.toNat

def collect : Body → Except InputFault Bytes
  | .empty => .ok []
  | .buffered b => .ok b
  | .stream _ s => s.collect

/-- A short description without the content. -/
def describe : Body → String
  | .empty => "Empty"
  | .buffered b => s!"Bytes({b.length} bytes)"
  | .stream n _ => s!"Stream({n.toNat} bytes)"

end Body

/-- A request ready to be sent.  Header names are in lower case. -/
structure Request where
  method : Method
  url : String
  headers : Table String
  body : Body

/-- A response.  Its header names are in lower case and may repeat. -/
structure Response where
  status : Nat
  headers : List (String × String)
  body : Stream

/-- Whether a header value is readable text: printable ASCII characters and tabs. -/
def isReadable (value : String) : Bool :=
  value.toList.all fun c => (0x20 ≤ c.toNat && c.toNat ≤ 0x7E) || c = '\t'

/-- The first header of the given name, if its value is readable. -/
def Response.header? (r : Response) (name : String) : Option String :=
  (r.headers.lookup name).filter isReadable

end Http

end ObjectStore
