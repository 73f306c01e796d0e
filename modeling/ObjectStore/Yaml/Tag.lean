import ObjectStore.Bytes
import ObjectStore.Yaml.Place
/-!
# Tags and anchors

A tag says of what kind a node is meant to be.  It is written out between angle brackets, or
as a handle with the rest behind it; **a handle stands for the start of a tag**, which a
directive at the head of the document can change.

Bytes of a tag can be written as a percent sign and two digits; together they have to look
like the UTF-8 form of a character.
-/

namespace ObjectStore.Yaml

def isWordChar (c : Char) : Bool := c.isAlphanum || c = '_' || c = '-'

/-! ### The parts of a tag -/

/-- The characters of a tag; only between angle brackets do some marks of flow collections
belong to them. -/
def isTagChar (bracketed : Bool) (c : Char) : Bool :=
  isWordChar c || ";/?:@&=+$.%!~*'()".toList.contains c ||
    (bracketed && (c = ',' || c = '[' || c = ']'))

/-- How many bytes follow the first byte of the UTF-8 form of a character. -/
def furtherBytes? (b : UInt8) : Option Nat :=
  if b &&& 0x80 = 0 then some 0
  else if b &&& 0xE0 = 0xC0 then some 1
  else if b &&& 0xF0 = 0xE0 then some 2
  else if b &&& 0xF8 = 0xF0 then some 3
  else none

def byteOf? (high low : Char) : Option UInt8 := do
  let h ← hexValue? high.toNat.toUInt8
  let l ← hexValue? low.toNat.toUInt8
  if high.toNat < 128 && low.toNat < 128 then return h * 16 + l else none

/-- How many escaped bytes have to follow an escaped byte. -/
def pendingAfter? (pending : Nat) (b : UInt8) : Option Nat :=
  match pending with
  | 0 => furtherBytes? b
  | n + 1 => if b &&& 0xC0 = 0x80 then some n else none

/-- The characters of a tag as bytes, and what follows them.  `pending` more escaped bytes have
to come first. -/
def tagBytes? (bracketed : Bool) : (pending : Nat) → List Char → Option (Bytes × List Char)
  | 0, [] => some ([], [])
  | _ + 1, [] => none
  | pending, '%' :: high :: low :: r => do
    let b ← byteOf? high low
    let pending ← pendingAfter? pending b
    let (bytes, rest) ← tagBytes? bracketed pending r
    return (b :: bytes, rest)
  | pending, c :: r =>
    if pending ≠ 0 || c = '%' then none
    else if isTagChar bracketed c then do
      let (bytes, rest) ← tagBytes? bracketed 0 r
      return (c.toNat.toUInt8 :: bytes, rest)
    else some ([], c :: r)

def someTagBytes? (bracketed : Bool) (text : List Char) : Option (Bytes × List Char) :=
  (tagBytes? bracketed 0 text).filter fun found => !found.1.isEmpty

/-- A handle, which need not end with a mark unless a directive names it; the mark alone is a
handle too. -/
def handle? (named : Bool) : List Char → Option (String × List Char)
  | '!' :: r =>
    let word := r.takeWhile isWordChar
    match r.dropWhile isWordChar with
    | '!' :: rest => some (String.ofList ('!' :: word ++ ['!']), rest)
    | rest => if named && !word.isEmpty then none else some (String.ofList ('!' :: word), rest)
  | _ => none

/-! ### Tags -/

/-- A tag as it is written.  Without a handle the rest is all of it. -/
structure TagText where
  handle : String := ""
  rest : Bytes
  deriving Repr, DecidableEq

def tagMark : UInt8 := 33

/-- A tag that begins with a handle or with the mark alone. -/
def shortTag? (text : List Char) : Option (TagText × List Char) := do
  let (handle, rest) ← handle? false text
  if 1 < handle.length && handle.endsWith "!" then
    let (bytes, rest) ← someTagBytes? false rest
    return ({ handle, rest := bytes }, rest)
  else
    let (bytes, rest) ← tagBytes? false 0 rest
    match (utf8 handle).drop 1 ++ bytes with
    | [] => return ({ rest := [tagMark] }, rest)
    | bytes => return ({ handle := "!", rest := bytes }, rest)

/-- Read a tag, and what follows it.  In a flow collection it may end at a comma. -/
def tag? (flow : Bool) (text : List Char) : Option (TagText × List Char) := do
  let (tag, rest) ←
    match text with
    | '!' :: '<' :: r =>
      match someTagBytes? true r with
      | some (bytes, '>' :: rest) => some ({ rest := bytes : TagText }, rest)
      | _ => none
    | _ => shortTag? text
  if (flow && rest.head? = some ',') || endsWord rest then return (tag, rest) else none

/-- The starts of tags that handles stand for without a directive. -/
def defaultHandles : List (String × Bytes) :=
  [("!", [tagMark]), ("!!", utf8 "tag:yaml.org,2002:")]

def TagText.resolve? (t : TagText) (handles : List (String × Bytes)) : Option Bytes :=
  if t.handle.isEmpty then some t.rest
  else (handles.lookup t.handle).map fun start => start ++ t.rest

/-! ### Anchors -/

def anchorName? (text : List Char) : Option (String × List Char) :=
  let name := text.takeWhile isWordChar
  let rest := text.dropWhile isWordChar
  let ends := endsWord rest || rest.head?.any fun c => "?:,]\x7d%@".toList.contains c ||
    c = Char.ofNat 0x60
  if name.isEmpty || !ends then none else some (String.ofList name, rest)

/-! ### Directives -/

inductive Directive where
  | version (major minor : Nat)
  | handle (name : String) (start : Bytes)
  deriving Repr, DecidableEq

namespace Directive

def number? (text : List Char) : Option (Nat × List Char) :=
  let digits := text.takeWhile Char.isDigit
  if digits.isEmpty || 9 < digits.length then none
  else some (Nat.ofDigitChars 10 digits 0, text.dropWhile Char.isDigit)

/-- Read a directive from behind its percent sign, and what follows it. -/
def read? (text : List Char) : Option (Directive × List Char) :=
  let name := String.ofList (text.takeWhile isWordChar)
  let rest := text.dropWhile isWordChar
  if !endsWord rest then none
  else
    match name with
    | "YAML" => do
      let (major, rest) ← number? (rest.dropWhile isBlank)
      match rest with
      | '.' :: rest => do
        let (minor, rest) ← number? rest
        return (.version major minor, rest)
      | _ => none
    | "TAG" => do
      let (name, rest) ← handle? true (rest.dropWhile isBlank)
      if !(rest.head?.any isBlank) then none
      else
        let (start, rest) ← someTagBytes? true (rest.dropWhile isBlank)
        if endsWord rest then return (.handle name start, rest) else none
    | _ => none

end Directive

end ObjectStore.Yaml
