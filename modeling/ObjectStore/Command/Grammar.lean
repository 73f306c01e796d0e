import ObjectStore.Text.Cut
import ObjectStore.Text.Number
/-!
# Grammar of command lines

A command line is read word by word.  Words that begin with a dash are options: a long name
after two dashes, or short names of one letter each after one.  An option that takes a value
takes it from behind an equals sign, from the rest of its short word, or from the next word.
All other words, and all words after two dashes alone, are positional.

**The first fault ends the reading.**  A value that stands in a word of its own is looked at
only when the next option or positional word comes, so a fault in it is found then.
-/

namespace ObjectStore.Command

/-- Why a command line cannot be read, or what it asks for instead of a command. -/
inductive UsageFault where
  | unknownArgument (word : String)
  | unknownCommand (word : String)
  | missingCommand
  | missingArgument (name : String)
  | missingValue (name : String)
  | unexpectedValue (name : String)
  | malformedValue (name value : String)
  | conflict (name other : String)
  | nothing
  | help (command : Option String)
  | version
  deriving Repr, DecidableEq

inductive OptionKind where
  | flag
  | text
  /-- A number below a bound; a minus sign is admitted in front of a zero if `signed`. -/
  | number (bound : Nat) (signed : Bool)
  | help
  | version
  deriving Repr, DecidableEq

structure OptionForm where
  name : String
  short : Option Char := none
  kind : OptionKind := .flag
  required : Bool := false
  /-- The option without which this one makes no sense. -/
  needs : Option String := none
  /-- The option that cannot stand beside this one. -/
  excludes : Option String := none
  /-- What the option is for. -/
  purpose : String := ""

def OptionForm.takesValue (o : OptionForm) : Bool :=
  match o.kind with
  | .text => true
  | .number _ _ => true
  | _ => false

structure Form where
  /-- The name of the command; the outermost level has none. -/
  command : Option String := none
  positionals : List String := []
  options : List OptionForm := []
  commands : List String := []

def Form.long? (f : Form) (name : String) : Option OptionForm :=
  f.options.find? fun o => o.name == name

def Form.short? (f : Form) (c : Char) : Option OptionForm :=
  f.options.find? fun o => o.short == some c

/-! ### Values -/

def readNumber (bound : Nat) (signed : Bool) (value : String) : Option Nat :=
  match signed, value.toList with
  | true, '-' :: cs => (Text.readDigits 10 1 cs).toOption
  | _, _ => (Text.readDecimal bound value).toOption

structure Given where
  /-- Options with their values; a flag has the empty one. -/
  options : List (String × String) := []
  positionals : List String := []

namespace Given

def value? (g : Given) (name : String) : Option String := g.options.lookup name

def has (g : Given) (name : String) : Bool := (g.value? name).isSome

def add (g : Given) (name value : String) : Except UsageFault Given :=
  if g.has name then .error (.conflict name name)
  else .ok { g with options := g.options ++ [(name, value)] }

/-- Take an option with the value that came with it. -/
def accept (g : Given) (f : Form) (o : OptionForm) (value : Option String) :
    Except UsageFault Given :=
  match o.kind, value with
  | .help, _ => .error (.help f.command)
  | .version, _ => .error .version
  | .flag, _ => g.add o.name ""
  | .text, some v => g.add o.name v
  | .number bound signed, some v => do
    let g ← g.add o.name v
    match readNumber bound signed v with
    | some _ => return g
    | none => throw (.malformedValue o.name v)
  | _, none => .error (.missingValue o.name)

end Given

/-! ### Words -/

structure Reading where
  given : Given := {}
  /-- An option that takes a value from a word of its own, and that word if it has come. -/
  pending : Option (OptionForm × Option String) := none
  /-- Whether all further words are positional. -/
  verbatim : Bool := false

namespace Reading

/-- Whether the next word is a value. -/
def awaits (s : Reading) : Bool :=
  match s.pending with
  | some (_, none) => true
  | _ => false

def settle (s : Reading) (f : Form) : Except UsageFault Reading :=
  match s.pending with
  | none => .ok s
  | some (o, value) => do
    let given ← s.given.accept f o value
    return { s with given, pending := none }

def option (s : Reading) (f : Form) (o : OptionForm) (attached : Option String) :
    Except UsageFault Reading :=
  match o.takesValue, attached with
  | false, some _ => .error (.unexpectedValue o.name)
  | true, none => do
    let s ← s.settle f
    return { s with pending := some (o, none) }
  | _, _ => do
    let s ← s.settle f
    let given ← s.given.accept f o attached
    return { s with given }

def long (s : Reading) (f : Form) (word : List Char) : Except UsageFault Reading :=
  let (name, value) := Text.cut '=' word
  match f.long? (String.ofList name) with
  | none => .error (.unknownArgument (String.ofList ('-' :: '-' :: name)))
  | some o => s.option f o (value.map String.ofList)

def shorts (s : Reading) (f : Form) : List Char → Except UsageFault Reading
  | [] => .ok s
  | c :: r =>
    match f.short? c with
    | none => .error (.unknownArgument (String.ofList ['-', c]))
    | some o =>
      if o.takesValue then
        match r with
        | [] => s.option f o none
        | '=' :: v => s.option f o (some (String.ofList v))
        | v => s.option f o (some (String.ofList v))
      else do
        let s ← s.option f o none
        s.shorts f r

def positional (s : Reading) (f : Form) (word : String) : Except UsageFault Reading :=
  if s.given.positionals.length < f.positionals.length then do
    let s ← s.settle f
    return { s with given := { s.given with positionals := s.given.positionals ++ [word] } }
  else if f.commands.isEmpty || (s.verbatim && f.commands.contains word) then
    .error (.unknownArgument word)
  else .error (.unknownCommand word)

/-- Read words up to the name of a command: what was read, and the command with the words
after it. -/
def words (f : Form) (s : Reading) :
    List String → Except UsageFault (Reading × Option (String × List String))
  | [] => .ok (s, none)
  | w :: ws =>
    if s.verbatim then do
      let s ← s.positional f w
      words f s ws
    else if !s.awaits && f.commands.contains w then .ok (s, some (w, ws))
    else
      match w.toList with
      | ['-', '-'] => words f { s with verbatim := true } ws
      | '-' :: '-' :: name => do
        let s ← s.long f name
        words f s ws
      | '-' :: c :: cs => do
        let s ← s.shorts f (c :: cs)
        words f s ws
      | _ =>
        match s.pending with
        | some (o, none) => words f { s with pending := some (o, some w) } ws
        | _ => do
          let s ← s.positional f w
          words f s ws

end Reading

/-! ### Whole commands -/

/-- Two options that were given and exclude each other. -/
def Form.clash? (f : Form) (g : Given) : Option (String × String) :=
  f.options.findSome? fun o =>
    match o.excludes with
    | some other => if g.has o.name && g.has other then some (o.name, other) else none
    | none => none

/-- A word that is required but was not given. -/
def Form.missing? (f : Form) (g : Given) : Option String :=
  (f.positionals.drop g.positionals.length).head?.or
    (f.options.findSome? fun o =>
      if o.required && !g.has o.name then some o.name
      else
        match o.needs with
        | some other => if g.has o.name && !g.has other then some other else none
        | none => none)

def Form.read (f : Form) (ws : List String) : Except UsageFault Given := do
  let (s, _) ← Reading.words f {} ws
  let s ← s.settle f
  match f.clash? s.given, f.missing? s.given with
  | some (a, b), _ => throw (.conflict a b)
  | none, some name => throw (.missingArgument name)
  | none, none => return s.given

end ObjectStore.Command
