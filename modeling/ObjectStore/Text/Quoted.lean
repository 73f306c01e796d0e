import ObjectStore.Text.Printable
/-!
# Quoted texts

The diagnostic form of a text stands between double quotes.  Quote and backslash are
escaped, four controls have a letter of their own, and any other character that is not
printable is given by its code point in lower-case hexadecimal.  In the path of a file an
apostrophe is escaped as well.
-/

namespace ObjectStore.Text

def hexDigits (n : Nat) : List Char := Nat.toDigits 16 n

/-- The characters that are written as a backslash and a letter, with that letter. -/
def letterEscapes : List (Char × Char) :=
  [('"', '"'), ('\\', '\\'), ('\n', 'n'), ('\r', 'r'), ('\t', 't'), ('\x00', '0')]

def quotedChar (c : Char) : List Char :=
  match letterEscapes.lookup c with
  | some letter => ['\\', letter]
  | none =>
    if isPrintable c then [c] else "\\u\x7b".toList ++ hexDigits c.toNat ++ ['\x7d']

def quoted (s : String) : String :=
  String.ofList ('"' :: s.toList.flatMap quotedChar ++ ['"'])

/-- The diagnostic form of the path of a file, in which an apostrophe is escaped too. -/
def quotedPath (s : String) : String :=
  let quotedPathChar (c : Char) := if c = '\'' then ['\\', c] else quotedChar c
  String.ofList ('"' :: s.toList.flatMap quotedPathChar ++ ['"'])

end ObjectStore.Text
