import ObjectStore.Xml.Node
/-!
# Values of fields

How the text of an element becomes a value: an empty text may stand for no value, an entity
tag loses the quotes around it, and a number is a run of decimal digits that may follow a
plus sign.
-/

namespace ObjectStore.Xml

def nonEmpty (s : String) : Option String := if s.isEmpty then none else some s

/-- An entity tag without the pair of double quotes around it. -/
def unquoteTag (s : String) : String :=
  match s.toList with
  | '"' :: r => if r.getLast? = some '"' then String.ofList r.dropLast else s
  | _ => s

def readUInt64 (element text : String) : Except Fault UInt64 :=
  match Text.readDecimal UInt64.size text with
  | .ok n => .ok n.toUInt64
  | .error _ => .error (.badNumber element text)

def readUInt32 (element text : String) : Except Fault UInt32 :=
  match Text.readDecimal UInt32.size text with
  | .ok n => .ok n.toUInt32
  | .error _ => .error (.badNumber element text)

end ObjectStore.Xml
