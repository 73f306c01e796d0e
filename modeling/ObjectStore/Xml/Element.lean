import ObjectStore.Xml.Escape
/-!
# Writing documents

A document to be sent is a tree of elements, each with either text or child elements.
`render` writes the tree without any space between elements, below a declaration and with
the namespace of the service on the outermost element.
-/

namespace ObjectStore.Xml

inductive Element where
  | text (name content : String)
  /-- An element whose text stands between double quotes that are written as they are. -/
  | quoted (name content : String)
  | node (name : String) (children : List Element)

namespace Element

mutual

def render : Element → String
  | .text name content => "<" ++ name ++ ">" ++ escape content ++ "</" ++ name ++ ">"
  | .quoted name content => "<" ++ name ++ ">\"" ++ escape content ++ "\"</" ++ name ++ ">"
  | .node name children => "<" ++ name ++ ">" ++ renderAll children ++ "</" ++ name ++ ">"

def renderAll : List Element → String
  | [] => ""
  | e :: l => e.render ++ renderAll l

end

end Element

/-- The namespace of the service's documents. -/
def serviceNamespace : String := "http://s3.amazonaws.com/doc/2006-03-01/"

def xmlDeclaration : String := "<?xml version=\"1.0\" encoding=\"UTF-8\"?>"

/-- The document with the given outermost element. -/
def renderDocument (name : String) (children : List Element) : String :=
  xmlDeclaration ++ "<" ++ name ++ " xmlns=\"" ++ serviceNamespace ++ "\">" ++
    Element.renderAll children ++ "</" ++ name ++ ">"

end ObjectStore.Xml
