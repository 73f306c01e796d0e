import ObjectStore.Percent
import ObjectStore.Table
/-!
# Query parameters

The parameters of a request have distinct names.  A parameter without a value is a flag such
as `versions`; in the query string it looks like one with an empty value.
-/

namespace ObjectStore

/-- Named parameters; a flag has no value. -/
structure Query where
  parameters : Table (Option String)

namespace Query

def empty : Query := ⟨Table.empty⟩

def flag (q : Query) (name : String) : Query := ⟨q.parameters.insert name none⟩

def set (q : Query) (name value : String) : Query := ⟨q.parameters.insert name (some value)⟩

def remove (q : Query) (name : String) : Query := ⟨q.parameters.erase name⟩

/-- Set the parameter to the value if there is one, and remove it otherwise. -/
def setOrRemove (q : Query) (name : String) : Option String → Query
  | some value => q.set name value
  | none => q.remove name

/-- The value of a parameter; a flag has none. -/
def get? (q : Query) (name : String) : Option String := (q.parameters.get? name).join

def contains (q : Query) (name : String) : Bool := q.parameters.contains name

def isEmpty (q : Query) : Bool := q.parameters.isEmpty

def writeParameter (text : String) (p : String × Option String) : String :=
  let text := if text.isEmpty then text else text ++ "&"
  Percent.append (Percent.append text p.1 ++ "=") (p.2.getD "")

/-- The query string, without a question mark in front. -/
def text (q : Query) : String := q.parameters.entries.foldl writeParameter ""

end Query

end ObjectStore
