import ObjectStore.Yaml.Value
/-!
# YAML documents

`document?` reads the value of a text that holds one document.  The text is cut into tokens,
the tokens make a node, and **the value of the document is that node with what its anchors
stand for.**  A text that is malformed anywhere has no value, and neither has one in which
another document follows.
-/

namespace ObjectStore.Yaml

def isReadable (c : Char) : Bool :=
  let n := c.toNat
  n = 9 || n = 10 || n = 13 || (0x20 ≤ n && n ≤ 0x7E) || n = 0x85 ||
    (0xA0 ≤ n && n ≤ 0xFFFD) || 0x10000 ≤ n

/-- The value of a document; one in which nothing is written is null. -/
def document? (text : String) : Option Value := do
  if !text.toList.all isReadable then none
  let n ← Node.ofTokens? (← tokens? (unifyLineEnds text.toList))
  return .ofRoot n

end ObjectStore.Yaml
