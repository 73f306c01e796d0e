import ObjectStore.Yaml.Node
/-!
# Values of a document

A value is a node together with what the anchors of its document stand for.  What a scalar
means depends on what is wanted of it: as a text every scalar is what is written there, and
**only a plain scalar can be a null, a switch or a number**, or else one in a literal block
whose tag says so.

A reader of a value follows an alias first, and gives nothing if the value does not fit.
-/

namespace ObjectStore.Yaml

structure Value where
  node : Node
  /-- What the anchors stand for; of one number the first node counts. -/
  anchored : List (Nat × Node) := []

namespace Value

/-- The value of a whole document, in which a later anchor takes the place of an earlier one. -/
def ofRoot (n : Node) : Value := { node := n, anchored := n.anchored.reverse }

/-- The node that the value stands for. -/
def target (v : Value) : Node :=
  match v.node with
  | .alias n => (v.anchored.lookup n).getD v.node
  | n => n

def within (v : Value) (n : Node) : Value := { v with node := n }

/-! ### Tags -/

/-- A tag of the common kinds of scalars. -/
def commonTag (name : String) : Bytes := utf8 ("tag:yaml.org,2002:" ++ name)

/-- The text of a scalar that is plain, or a literal block with the given tag. -/
def unquoted? (v : Value) (tag : String) : Option String :=
  match v.target with
  | .scalar _ _ text .plain => some text
  | .scalar _ (some t) text .literal => if t = commonTag tag then some text else none
  | _ => none

/-! ### Scalars -/

def text? (v : Value) : Option String :=
  match v.target with
  | .scalar _ _ text _ => some text
  | _ => none

def switchOf? (text : String) : Option Bool :=
  if ["true", "True", "TRUE"].contains text then some true
  else if ["false", "False", "FALSE"].contains text then some false
  else none

def switch? (v : Value) : Option Bool := do switchOf? (← v.unquoted? "bool")

/-- The number that decimal digits or a base and digits stand for.  A number of several digits
does not begin with a zero. -/
def digits? (bound : Nat) : List Char → Option Nat
  | '0' :: 'x' :: cs => (Text.readDigits 16 bound cs).toOption
  | '0' :: 'o' :: cs => (Text.readDigits 8 bound cs).toOption
  | '0' :: 'b' :: cs => (Text.readDigits 2 bound cs).toOption
  | ['0'] => some 0
  | '0' :: _ => none
  | cs => (Text.readDigits 10 bound cs).toOption

/-- The number below a bound that a text stands for; a plus sign may stand in front of it. -/
def numberOf? (bound : Nat) (text : String) : Option Nat :=
  match text.toList with
  | '+' :: cs => digits? bound cs
  | cs => digits? bound cs

/-- The number below a bound that a scalar is. -/
def number? (bound : Nat) (v : Value) : Option Nat := do numberOf? bound (← v.unquoted? "int")

/-! ### Values that may be missing -/

def isNullWord (text : String) : Bool := ["~", "null", "Null", "NULL"].contains text

/-- Whether the value is a null: a null word without another tag, or nothing at all.  A plain
scalar whose tag is that of nulls has to be a null word. -/
def isNull? (v : Value) : Option Bool :=
  match v.target with
  | .scalar _ none text .plain => some (text.isEmpty || isNullWord text)
  | .scalar _ (some t) text .plain =>
    if t ≠ commonTag "null" then some false
    else if isNullWord text then some true else none
  | _ => some false

def optional? {α : Type} (read : Value → Option α) (v : Value) : Option (Option α) := do
  if ← v.isNull? then return none else (read v).map some

/-! ### Records and tables -/

/-- The keys of a mapping as texts, each with its value. -/
def named? (v : Value) : List (Node × Node) → Option (List (String × Value))
  | [] => some []
  | (key, n) :: rest => do
    let name ← (v.within key).text?
    let rest ← named? v rest
    return (name, v.within n) :: rest

/-- The entries of a mapping under their names; where nothing is written there are none. -/
def entries? (v : Value) : Option (List (String × Value)) :=
  match v.target with
  | .mapping _ entries => v.named? entries
  | .scalar _ _ "" .plain => some []
  | _ => none

/-- Whether one of the names stands twice in the list. -/
def repeats (names : List String) : List (String × Value) → Bool
  | [] => false
  | (name, _) :: rest =>
    (names.contains name && rest.any (·.1 == name)) || repeats names rest

/-- The fields of a record with the given names, in which no name stands twice; other names are
passed over. -/
def fields? (names : List String) (v : Value) : Option (List (String × Value)) :=
  v.entries?.filter fun fields => !repeats names fields

def field {α : Type} (fields : List (String × Value)) (name : String)
    (read : Value → Option α) (default : α) : Option α :=
  match fields.lookup name with
  | some v => read v
  | none => some default

end Value

end ObjectStore.Yaml
