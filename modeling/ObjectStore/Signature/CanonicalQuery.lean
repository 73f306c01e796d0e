import ObjectStore.Percent
import ObjectStore.Text.Cut
/-!
# Canonical query strings

A signature covers the query string in canonical form: every name and value decoded and
encoded anew, the pairs sorted.  A query string that already looks canonical is taken over
as it is; `canonicalQuery` makes that choice and `rebuiltQuery` is the long way.
-/

namespace ObjectStore.Signature

/-- The name and the value of a parameter, encoded anew.  A parameter without an equals sign
has the empty value. -/
def rebuiltPair (piece : List Char) : String × String :=
  let (name, value) := Text.cut '=' piece
  let anew (cs : List Char) := Percent.encode .encoded (Percent.decodeOrKeep (String.ofList cs))
  (anew name, anew (value.getD []))

def pairLe (a b : String × String) : Bool := a.1 < b.1 || (a.1 = b.1 && a.2 ≤ b.2)

/-- The query string with every parameter encoded anew, in order. -/
def rebuiltQuery (query : String) : String :=
  let pairs := ((query.toList.splitOn '&').map rebuiltPair).mergeSort pairLe
  "&".intercalate (pairs.map fun p => p.1 ++ "=" ++ p.2)

def isQueryChar (c : Char) : Bool :=
  (c.toNat < 128 && Percent.isUnreserved c.toNat.toUInt8) || c = '=' || c = '&' || c = '%'

/-- Whether the names of the parameters do not descend from `last` on, and each parameter
has an equals sign. -/
def namesAscend (last : List Char) : List (List Char) → Bool
  | [] => true
  | piece :: rest =>
    let (name, value) := Text.cut '=' piece
    !(name < last) && value.isSome && namesAscend name rest

def looksCanonical (query : List Char) : Bool :=
  query.all isQueryChar && namesAscend [] (query.splitOn '&')

/-- The query string in the form that a signature covers. -/
def canonicalQuery (query : String) : String :=
  if query.isEmpty then ""
  else if looksCanonical query.toList then query
  else rebuiltQuery query

end ObjectStore.Signature
