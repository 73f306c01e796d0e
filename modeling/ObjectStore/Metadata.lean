import ObjectStore.Http.Message
import ObjectStore.Service
import ObjectStore.Text.Cut
/-!
# Object metadata

What is stored with an object besides its bytes: some standard headers of HTTP and entries
of the user's own.  Names do not depend on case.  In a request an entry of the user's own is
a header that begins as the service's profile says.
-/

namespace ObjectStore

def lowerCase (s : String) : String := String.ofList (s.toList.map Char.toLower)

structure Metadata where
  entries : Table String

namespace Metadata

/-- Standard headers that describe an object and keep their name. -/
def standardNames : List String :=
  ["content-type", "content-md5", "content-length", "content-language", "expires",
    "cache-control", "content-disposition", "content-encoding"]

/-- The header that carries the digest of the payload. -/
def payloadDigestName : String := "x-amz-content-sha256"

def empty : Metadata := ⟨Table.empty⟩

instance : Inhabited Metadata := ⟨empty⟩

def insert (m : Metadata) (name value : String) : Metadata :=
  ⟨m.entries.insert (lowerCase name) value⟩

def get? (m : Metadata) (name : String) : Option String := m.entries.get? (lowerCase name)

def contains (m : Metadata) (name : String) : Bool := m.entries.contains (lowerCase name)

def remove (m : Metadata) (name : String) : Metadata := ⟨m.entries.erase (lowerCase name)⟩

def size (m : Metadata) : Nat := m.entries.size

def isEmpty (m : Metadata) : Bool := m.entries.isEmpty

def ofList (l : List (String × String)) : Metadata :=
  l.foldl (fun m e => m.insert e.1 e.2) empty

def isStandard (name : String) : Bool := standardNames.contains name

/-- The entries that a part of an upload is sent with.  All others belong to the upload. -/
def forPart (m : Metadata) : Metadata :=
  ⟨m.entries.filter fun name _ => isStandard name || name = payloadDigestName⟩

/-- The header that an entry becomes.  A name that already begins as the service's own
headers do stays as it is. -/
def headerName (profile : ServiceProfile) (name : String) : String :=
  if isStandard name || (Text.afterStart? profile.headerStart name).isSome then name
  else profile.metadataStart ++ name

def toHeaders (m : Metadata) (profile : ServiceProfile) : Table String :=
  Table.ofList (m.entries.entries.map fun e => (headerName profile e.1, e.2))

/-- The user's entry in a header, if there is one and it is readable. -/
def ofHeader? (profile : ServiceProfile) (h : String × String) : Option (String × String) :=
  match Text.afterStart? profile.metadataStart h.1 with
  | some name => if Http.isReadable h.2 then some (name, h.2) else none
  | none => none

def ofHeaders (profile : ServiceProfile) (headers : List (String × String)) : Metadata :=
  ofList (headers.filterMap (ofHeader? profile))

end Metadata

end ObjectStore
