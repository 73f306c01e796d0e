import ObjectStore.Proofs.Xml.Layout
/-!
# Walking over a document

Every reader sees a document as a walk over its elements and decides at each start and each end
what to make of it.  Starts come in the order in which the elements are met
(`Element.preorder`) and ends in the order in which they are left (`Element.postorder`).  An end
carries the text of its own element: what the element contains, trimmed, or nothing if it contains
elements, so that no text gets from one element into another.

**The walk over a document is the walk over its tree** (`Document.walks_of_written`), whatever
stands between the tags and in front of the outermost one, and however elements without content
are written.
-/

namespace ObjectStore.Xml

namespace Node

def opened? : Node → Option String
  | .opened name => some name
  | .closed _ _ => none

def closed? : Node → Option (String × String)
  | .opened _ => none
  | .closed name text => some (name, text)

/-- Note a node behind those seen so far; a visit that never fails. -/
def record (seen : List Node) (n : Node) : Except Fault (List Node) := .ok (seen ++ [n])

theorem foldlM_record (nodes seen : List Node) :
    nodes.foldlM record seen = .ok (seen ++ nodes) := by
  induction nodes generalizing seen with
  | nil =>
    rw [List.append_nil]
    rfl
  | cons n nodes ih =>
    rw [List.foldlM_cons]
    show nodes.foldlM record (seen ++ [n]) = _
    rw [ih, List.append_assoc, List.singleton_append]

end Node

namespace Element

/-! ### The two orders -/

mutual

/-- The names of the elements, each in front of those of what is in it. -/
def preorder : Element → List String
  | .text name _ => [name]
  | .quoted name _ => [name]
  | .node name children => name :: preorderAll children

def preorderAll : List Element → List String
  | [] => []
  | e :: l => e.preorder ++ preorderAll l

end

/-- The text of an element itself. -/
def ownText : Element → String
  | .text _ content => trimmed content
  | .quoted _ content => "\"" ++ content ++ "\""
  | .node _ _ => ""

mutual

/-- The elements by name and text, each behind those in it. -/
def postorder : Element → List (String × String)
  | .text name content => [(name, (text name content).ownText)]
  | .quoted name content => [(name, (quoted name content).ownText)]
  | .node name children => postorderAll children ++ [(name, (node name children).ownText)]

def postorderAll : List Element → List (String × String)
  | [] => []
  | e :: l => e.postorder ++ postorderAll l

end

mutual

theorem filterMap_opened?_nodes (e : Element) : e.nodes.filterMap Node.opened? = e.preorder := by
  cases e with
  | text name content => rfl
  | quoted name content => rfl
  | node name children =>
    rw [nodes, preorder, List.filterMap_cons_some (by rfl), List.filterMap_append,
      filterMap_opened?_nodesAll children, List.filterMap_cons_none (by rfl), List.filterMap_nil,
      List.append_nil]

theorem filterMap_opened?_nodesAll (l : List Element) :
    (nodesAll l).filterMap Node.opened? = preorderAll l := by
  cases l with
  | nil => rfl
  | cons e l =>
    rw [nodesAll, preorderAll, List.filterMap_append, filterMap_opened?_nodes e,
      filterMap_opened?_nodesAll l]

end

mutual

theorem filterMap_closed?_nodes (e : Element) : e.nodes.filterMap Node.closed? = e.postorder := by
  cases e with
  | text name content => rfl
  | quoted name content => rfl
  | node name children =>
    rw [nodes, postorder, List.filterMap_cons_none (by rfl), List.filterMap_append,
      filterMap_closed?_nodesAll children]
    rfl

theorem filterMap_closed?_nodesAll (l : List Element) :
    (nodesAll l).filterMap Node.closed? = postorderAll l := by
  cases l with
  | nil => rfl
  | cons e l =>
    rw [nodesAll, postorderAll, List.filterMap_append, filterMap_closed?_nodes e,
      filterMap_closed?_nodesAll l]

end

end Element

/-! ### The walk -/

namespace Document

/-- The walk over the document is one over the element: it succeeds with the name of the element
and has met its starts and ends; what a visit makes of them is what it makes of those of the
element, and its faults are the only ones. -/
structure Walks (d : Document) (e : Element) : Prop where
  recorded : d.visit Node.record [] = .ok (e.nodes, some e.name)
  opened : d.nodes.filterMap Node.opened? = e.preorder
  closed : d.nodes.filterMap Node.closed? = e.postorder
  visit : ∀ {σ : Type} (f : σ → Node → Except Fault σ) (start : σ),
    d.visit f start = (e.nodes.foldlM f start).map fun result => (result, some e.name)

theorem visit_of_root {σ : Type} (nodes : List Node) (name : Option String)
    (f : σ → Node → Except Fault σ) (start : σ) :
    visit ⟨nodes, .ok name⟩ f start =
      (nodes.foldlM f start).map fun result => (result, name) := by
  rw [visit]
  rcases nodes.foldlM f start with fault | result
  · rfl
  · rfl

/-- **The walk over a document is the walk over its tree.** -/
theorem walks_of_written {e : Element} {s : Bytes} (h : Written e s) : (ofBytes s).Walks e := by
  have hread : ofBytes s = ⟨e.nodes, .ok (some e.name)⟩ := ofBytes_of_written h
  rw [hread]
  constructor
  · rw [visit_of_root, Node.foldlM_record, List.nil_append]
    rfl
  · exact e.filterMap_opened?_nodes
  · exact e.filterMap_closed?_nodes
  · intro σ f start
    exact visit_of_root e.nodes (some e.name) f start

/-- Text beside empty elements written in both ways, between blanks and below a declaration. -/
def mixedDocument : String :=
  "<?xml version=\"1.0\"?>\n<R> <a>x &amp; y </a>\t<b><c/><d></d>\n</b><e> </e><f> </f></R>\n"

theorem walks_mixedDocument :
    ∃ e : Element,
      e.postorder = [("a", "x & y"), ("c", ""), ("d", ""), ("b", ""), ("e", ""), ("f", ""),
        ("R", "")] ∧
      Written e (utf8 mixedDocument) ∧ (ofBytes (utf8 mixedDocument)).Walks e := by
  have hinner : Laid [.node "c" [], .text "d" ""] _ :=
    .emptyNode allBlank_nil (by decide) areNames_nil
      (.text allBlank_nil (by decide) areNames_nil (.done (by decide : AllBlank [10])))
  have houter : Laid
      [.text "a" "x & y ", .node "b" [.node "c" [], .text "d" ""], .node "e" [], .text "f" " "] _ :=
    .text (by decide : AllBlank [32]) (by decide) areNames_nil
      (.node (by decide : AllBlank [9]) (by decide) areNames_nil hinner
        (.node allBlank_nil (by decide) areNames_nil (.done (by decide : AllBlank [32]))
          (.text allBlank_nil (by decide) areNames_nil (.done allBlank_nil))))
  have hdeclaration : 63 ∉ utf8 " version=\"1.0\"" := by decide +kernel
  have hwritten := Written.declared hdeclaration
    (.node (by decide : AllBlank [10]) (by decide : IsName "R") areNames_nil houter
      (.done (by decide : AllBlank [10])))
  have hbytes := Eq.mp (congrArg (Written _) (by decide +kernel : _ = utf8 mixedDocument)) hwritten
  exact ⟨_, by decide +kernel, hbytes, walks_of_written hbytes⟩

end Document

end ObjectStore.Xml
