import ObjectStore.Text.Number
import ObjectStore.Yaml.Place
/-!
# Scalars that flow

A scalar is written plainly, in single quotes or in double quotes.  It may go on over several
lines; **what separates two words of it is a `Gap`**: blanks within a line stand for
themselves, a line end is a space, and every further line end is kept.

Each of the three readers takes the characters one by one and gives the text, the last
character first, with what is left after the scalar.
-/

namespace ObjectStore.Yaml

/-! ### Words and gaps -/

/-- What stands between two words of a scalar; what it collects has the last character first. -/
inductive Gap where
  /-- Blanks. -/
  | blanks (reversed : List Char)
  /-- A line end, and the line ends after it. -/
  | broken (first : Char) (reversed : List Char)
  /-- The line ends after an escaped one. -/
  | joined (reversed : List Char)

namespace Gap

def none : Gap := .blanks []

/-- The characters that a gap stands for, the last one first.  Only a line feed is folded. -/
def reversed : Gap → List Char
  | .blanks bs => bs
  | .joined bs => bs
  | .broken first bs => if first ≠ '\n' then bs ++ [first] else if bs.isEmpty then [' '] else bs

/-- The gap with a blank after it; a blank at the start of a line is no part of it. -/
def blank (c : Char) : Gap → Gap
  | .blanks bs => .blanks (c :: bs)
  | g => g

def lineEnd (c : Char) : Gap → Gap
  | .blanks _ => .broken c []
  | .broken first bs => .broken first (c :: bs)
  | .joined bs => .joined (c :: bs)

/-- Whether the gap reaches to the start of a line. -/
def isLineStart : Gap → Bool
  | .blanks _ => false
  | _ => true

def isNone : Gap → Bool
  | .blanks bs => bs.isEmpty
  | _ => false

end Gap

/-! ### Plain scalars -/

def isFlowMark (c : Char) : Bool := c = ',' || c = '[' || c = ']' || c = '{' || c = '}'

def isIndicator (c : Char) : Bool :=
  isFlowMark c || c = '-' || c = '?' || c = ':' || c = '#' || c = '&' || c = '*' || c = '!' ||
    c = '|' || c = '>' || c = '\'' || c = '"' || c = '%' || c = '@' || c = Char.ofNat 0x60

def beginsPlain (flow : Bool) : List Char → Bool
  | [] => false
  | c :: r =>
    (!endsWord [c] && !isIndicator c) ||
      ((c = '-' || (!flow && (c = '?' || c = ':'))) && !endsWord r)

def endsPlain (flow : Bool) : List Char → Bool
  | [] => true
  | c :: r => (c = ':' && endsWord r) || (flow && isFlowMark c)

/-- Whether the text is a colon that a flow collection does not admit inside a plain scalar. -/
def isStrayColon : List Char → Bool
  | ':' :: c :: _ => isFlowMark c || c = '?'
  | _ => false

/-- Whether a plain scalar is over where a gap in it ends: its further lines are indented by at
least `margin` outside flow collections, and a comment or the end of the document ends it. -/
def gapEnds (flow : Bool) (margin column : Nat) (gap : Gap) : List Char → Bool
  | [] => true
  | c :: r =>
    !gap.isNone &&
      (c = '#' || (column = 0 && separates (c :: r)) ||
        (gap.isLineStart && !flow && column < margin))

/-- Read on in a plain scalar: the text, the gap at its end and what follows that gap. -/
def plainFrom (flow : Bool) (margin column : Nat) (text : List Char) (gap : Gap) :
    List Char → Option (List Char × Gap × List Char)
  | [] => some (text, gap, [])
  | c :: r =>
    if isBreak c then plainFrom flow margin 0 text (gap.lineEnd c) r
    else if isBlank c then
      if c = '\t' && gap.isLineStart && column < margin then none
      else plainFrom flow margin (column + 1) text (gap.blank c) r
    else if gapEnds flow margin column gap (c :: r) then some (text, gap, c :: r)
    else if flow && isStrayColon (c :: r) then none
    else if endsPlain flow (c :: r) then some (text, gap, c :: r)
    else plainFrom flow margin (column + 1) (c :: (gap.reversed ++ text)) .none r

/-! ### Quoted scalars -/

/-- Read on in single quotes; `closing` says that the last character was a quote, which ends
the scalar unless another one follows. -/
def singleFrom (closing : Bool) (column : Nat) (text : List Char) (gap : Gap) :
    List Char → Option (List Char × List Char)
  | [] => if closing then some (text, []) else none
  | c :: r =>
    if closing then
      if c = '\'' then singleFrom false (column + 1) ('\'' :: text) .none r
      else some (text, c :: r)
    else if isBreak c then singleFrom false 0 text (gap.lineEnd c) r
    else if isBlank c then singleFrom false (column + 1) text (gap.blank c) r
    else if column = 0 && separates (c :: r) then none
    else if c = '\'' then singleFrom true (column + 1) (gap.reversed ++ text) .none r
    else singleFrom false (column + 1) (c :: (gap.reversed ++ text)) .none r

inductive Escaping where
  /-- A character of the text. -/
  | none
  /-- The character after a backslash. -/
  | named
  /-- A hexadecimal digit, with so many more to come, of a number with this value so far. -/
  | coded (more value : Nat)

def escaped? : Char → Option Char
  | '0' => some (Char.ofNat 0)
  | 'a' => some (Char.ofNat 7)
  | 'b' => some (Char.ofNat 8)
  | 't' => some '\t'
  | '\t' => some '\t'
  | 'n' => some '\n'
  | 'v' => some (Char.ofNat 11)
  | 'f' => some (Char.ofNat 12)
  | 'r' => some '\r'
  | 'e' => some (Char.ofNat 27)
  | ' ' => some ' '
  | '"' => some '"'
  | '/' => some '/'
  | '\\' => some '\\'
  | 'N' => some (Char.ofNat 0x85)
  | '_' => some (Char.ofNat 0xA0)
  | 'L' => some (Char.ofNat 0x2028)
  | 'P' => some (Char.ofNat 0x2029)
  | _ => none

/-- How many digits follow a backslash and a letter. -/
def codeDigits? : Char → Option Nat
  | 'x' => some 2
  | 'u' => some 4
  | 'U' => some 8
  | _ => none

def doubleFrom (mode : Escaping) (column : Nat) (text : List Char) (gap : Gap) :
    List Char → Option (List Char × List Char)
  | [] => none
  | c :: r =>
    match mode with
    | .none =>
      if isBreak c then doubleFrom .none 0 text (gap.lineEnd c) r
      else if isBlank c then doubleFrom .none (column + 1) text (gap.blank c) r
      else if column = 0 && separates (c :: r) then none
      else if c = '"' then some (gap.reversed ++ text, r)
      else if c = '\\' then doubleFrom .named (column + 1) (gap.reversed ++ text) .none r
      else doubleFrom .none (column + 1) (c :: (gap.reversed ++ text)) .none r
    | .named =>
      if isBreak c then doubleFrom .none 0 text (.joined []) r
      else
        match escaped? c, codeDigits? c with
        | some e, _ => doubleFrom .none (column + 1) (e :: text) .none r
        | none, some n => doubleFrom (.coded (n - 1) 0) (column + 1) text .none r
        | none, none => none
    | .coded more value =>
      match Text.digit? 16 c with
      | none => none
      | some d =>
        let value := value * 16 + d
        match more with
        | n + 1 => doubleFrom (.coded n value) (column + 1) text .none r
        | 0 =>
          if value.isValidChar then
            doubleFrom .none (column + 1) (Char.ofNat value :: text) .none r
          else none

end ObjectStore.Yaml
