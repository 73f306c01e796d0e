import ObjectStore.Settings.Fault
import ObjectStore.Table
import ObjectStore.Text.Alphanumeric
import ObjectStore.Text.Blank
import ObjectStore.Text.Cut
/-!
# Environments

An environment gives variables their values; a variable with an empty value counts as unset.
An assignment file adds variables to an environment: **a variable that already has a value,
even an empty one, keeps it**, so the environment wins over the file and the first assignment
of a name over later ones.  The file is read up to the first line that is no assignment.
-/

namespace ObjectStore

abbrev Environment : Type := Table String

namespace Environment

def value? (e : Environment) (name : String) : Option String :=
  (e.get? name).filter fun v => !v.isEmpty

def switch? (e : Environment) (name : String) : Except SettingsFault (Option Bool) :=
  match (e.value? name).map fun v => String.ofList (v.toList.map Char.toLower) with
  | none => .ok none
  | some v =>
    if ["1", "true", "yes", "on"].contains v then .ok (some true)
    else if ["0", "false", "no", "off"].contains v then .ok (some false)
    else .error (.switch name v)

def number? (e : Environment) (name : String) (bound : Nat) :
    Except SettingsFault (Option Nat) :=
  match e.value? name with
  | none => .ok none
  | some v =>
    match Text.readDecimal bound v with
    | .ok n => .ok (some n)
    | .error f => .error (.number name v f)

def setIfUnset (e : Environment) (name value : String) : Environment :=
  if e.contains name then e else e.insert name value

end Environment

/-! ### Lines of an assignment file -/

namespace AssignmentFile

/-- Where a line of an assignment file stands with respect to its quotes. -/
inductive Quoting where
  | outside
  /-- After a blank, where a comment can begin. -/
  | afterBlank
  | escape
  | strong
  | strongEscape
  | weak
  | weakEscape
  deriving Repr, DecidableEq

def Quoting.step (q : Quoting) (c : Char) : Quoting :=
  match q with
  | .outside =>
    if Text.isBlank c && c ≠ '\n' && c ≠ '\r' then .afterBlank
    else if c = '\\' then .escape
    else if c = '"' then .weak
    else if c = '\'' then .strong
    else .outside
  | .afterBlank =>
    if c = '\\' then .escape
    else if c = '"' then .weak
    else if c = '\'' then .strong
    else .outside
  | .escape => .outside
  | .strong => if c = '\\' then .strongEscape else if c = '\'' then .outside else .strong
  | .strongEscape => .strong
  | .weak => if c = '\\' then .weakEscape else if c = '"' then .outside else .weak
  | .weakEscape => .weak

/-- What stands before the comment of a line, and the quoting at its end unless it has one. -/
def scan (q : Quoting) : List Char → List Char × Option Quoting
  | [] => ([], some q)
  | c :: r =>
    if q = .afterBlank && c = '#' then ([], none)
    else
      let (before, last) := scan (q.step c) r
      (c :: before, last)

/-- A line without the characters that end it. -/
def withoutLineEnd (l : List Char) : List Char :=
  match l.reverse with
  | '\n' :: '\r' :: r => r.reverse
  | '\n' :: r => r.reverse
  | _ => l

def isComment (l : List Char) : Bool := (l.dropWhile Text.isBlank).head? = some '#'

/-- Join the lines that quotes hold together, up to a quote that is never closed. -/
def joinLines (held : List Char) (q : Quoting) : List (List Char) → List (List Char)
  | [] => []
  | l :: ls =>
    if isComment (held ++ l) then [] :: joinLines [] .outside ls
    else
      match scan q l with
      | (before, none) => (held ++ before) :: joinLines [] .outside ls
      | (_, some .outside) => withoutLineEnd (held ++ l) :: joinLines [] .outside ls
      | (_, some q) => joinLines (held ++ l) q ls

def physicalLines (cs : List Char) : List (List Char) :=
  let ps := cs.splitOn '\n'
  (ps.dropLast.map (· ++ ['\n'])) ++ (ps.getLast?.toList.filter fun l => !l.isEmpty)

/-! ### Assignments -/

/-- What the next character of a value is part of. -/
inductive Reading where
  | text
  | escape
  | strong
  /-- A name after a dollar sign. -/
  | name (reversed : List Char)
  /-- A name in braces. -/
  | braced (reversed : List Char)
  /-- The blanks after the value. -/
  | ended

/-- The value of the variable with a name collected last character first, in front of a text
collected the same way. -/
def substitute (e : Environment) (name text : List Char) : List Char :=
  ((e.get? (String.ofList name.reverse)).getD "").toList.reverse ++ text

/-- Read on in a value; `weak` says whether double quotes are open, and `text` is the value so
far, the last character first. -/
def valueFrom (e : Environment) (weak : Bool) (mode : Reading) (text : List Char) :
    List Char → Option (List Char)
  | [] =>
    match mode with
    | .strong => none
    | .braced _ => none
    | .name n => if weak then none else some (substitute e n text)
    | _ => if weak then none else some text
  | c :: r =>
    match mode with
    | .ended =>
      if c = ' ' || c = '\t' then valueFrom e weak .ended text r
      else if c = '#' then some text
      else none
    | .escape =>
      if c = 'n' then valueFrom e weak .text ('\n' :: text) r
      else if c = '\\' || c = '\'' || c = '"' || c = '$' || c = ' ' then
        valueFrom e weak .text (c :: text) r
      else none
    | .strong =>
      if c = '\'' then valueFrom e weak .text text r else valueFrom e weak .strong (c :: text) r
    | .name n =>
      if Text.isAlphanumeric c then valueFrom e weak (.name (c :: n)) text r
      else if c = '{' && n.isEmpty then valueFrom e weak (.braced []) text r
      else if c = '$' then valueFrom e weak (.name []) (substitute e n text) r
      else valueFrom e weak .text (c :: substitute e n text) r
    | .braced n =>
      if c = '}' then valueFrom e weak .text (substitute e n text) r
      else valueFrom e weak (.braced (c :: n)) text r
    | .text =>
      if c = '$' then valueFrom e weak (.name []) text r
      else if c = '\\' then valueFrom e weak .escape text r
      else if c = '"' then valueFrom e (!weak) .text text r
      else if weak then valueFrom e weak .text (c :: text) r
      else if c = '\'' then valueFrom e weak .strong text r
      else if c = ' ' || c = '\t' then valueFrom e weak .ended text r
      else valueFrom e weak .text (c :: text) r

def isNameChar (c : Char) : Bool := c.isAlphanum || c = '_' || c = '.'

/-- A name, and what stands after it and the blanks that follow. -/
def name? (l : List Char) : Option (String × List Char) :=
  match l with
  | [] => none
  | c :: _ =>
    if c.isAlpha || c = '_' then
      some (String.ofList (l.takeWhile isNameChar),
        (l.dropWhile isNameChar).dropWhile Text.isBlank)
    else none

/-- What stands after an equals sign and the blanks that follow it. -/
def afterEquals? : List Char → Option (List Char)
  | '=' :: r => some (r.dropWhile Text.isBlank)
  | _ => none

inductive Line where
  | nothing
  | assignment (name value : String)
  | malformed

def assign (e : Environment) (name : String) (l : List Char) : Line :=
  if l.isEmpty || l.head? = some '#' then .assignment name ""
  else
    match valueFrom e false .text [] l with
    | some text => .assignment name (String.ofList text.reverse)
    | none => .malformed

/-- What a line says in an environment, from which the variables in it take their values. -/
def readLine (e : Environment) (l : List Char) : Line :=
  let l := (Text.trimEnd Text.isBlank l).dropWhile Text.isBlank
  if l.isEmpty || l.head? = some '#' then .nothing
  else
    match name? l with
    | none => .malformed
    | some (name, rest) =>
      match afterEquals? rest with
      | some value => assign e name value
      | none =>
        if name = "export" then
          match name? rest with
          | none => .malformed
          | some (name, rest) =>
            match afterEquals? rest with
            | some value => assign e name value
            | none => .malformed
        else .malformed

def addLines (e : Environment) : List (List Char) → Environment
  | [] => e
  | l :: ls =>
    match readLine e l with
    | .nothing => addLines e ls
    | .assignment name value => addLines (e.setIfUnset name value) ls
    | .malformed => e

end AssignmentFile

def Environment.addFile (e : Environment) (text : String) : Environment :=
  let cs :=
    match text.toList with
    | c :: r => if c = Char.ofNat 0xFEFF then r else c :: r
    | [] => []
  AssignmentFile.addLines e
    (AssignmentFile.joinLines [] .outside (AssignmentFile.physicalLines cs))

/-- The names that the variables in the text of a file may have. -/
def AssignmentFile.mentioned (text : String) : List String :=
  let isPart (c : Char) := isNameChar c || Text.isAlphanumeric c
  (text.toList.splitBy fun a b => isPart a == isPart b).filterMap fun w =>
    if w.any isPart then some (String.ofList w) else none

end ObjectStore
