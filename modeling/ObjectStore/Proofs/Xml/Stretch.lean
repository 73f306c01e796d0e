import ObjectStore.Proofs.Xml.Layout
/-!
# Tags and the character data between them

`stretches` cuts a text at its tags as one does who knows nothing of what it was made of: wherever
there is a `<`, a tag begins, it goes on to the next `>`, and what stands behind that, up to the
next `<`, is character data, with its blanks and its references as they are.

**Text does not leave its element:** the stretches of a rendered element are its own tags and, in
between, the escaped texts that it was given (`stretches_renderDocument`), for neither bracket
occurs in what is escaped.
-/

namespace ObjectStore.Xml

/-- What stands between the brackets of a tag, and the character data behind it. -/
structure Stretch where
  tag : String
  data : String
  deriving Repr, DecidableEq

namespace Stretch

/-- The written form of a stretch without its first bracket. -/
def inner (p : Stretch) : List Char := p.tag.toList ++ '>' :: p.data.toList

/-- A stretch with at most two brackets, those of its tag. -/
structure Plain (p : Stretch) : Prop where
  tag : '<' ∉ p.tag.toList ∧ '>' ∉ p.tag.toList
  data : '<' ∉ p.data.toList

def ofInner (cs : List Char) : Stretch :=
  let (tag, data) := Text.cut '>' cs
  { tag := String.ofList tag, data := String.ofList (data.getD []) }

variable {p : Stretch}

theorem Plain.ofInner_inner (h : p.Plain) : ofInner p.inner = p := by
  simp [ofInner, inner, Text.cut_append_sep h.tag.2]

theorem Plain.notMem_inner (h : p.Plain) : '<' ∉ p.inner := by
  simp [inner, h.tag.1, h.data]

/-- The text that a list of stretches is. -/
def chars (l : List Stretch) : List Char := l.flatMap fun p => '<' :: p.inner

theorem append_chars (first : List Char) (l : List Stretch) :
    first ++ chars l = ['<'].intercalate (first :: l.map inner) := by
  induction l generalizing first with
  | nil => simp [chars]
  | cons p l ih =>
    have hrest := ih p.inner
    rw [chars] at hrest
    rw [List.map_cons, List.intercalate_cons_cons, ← hrest, chars, List.flatMap_cons]
    simp

end Stretch

/-- The tags of a text, each with the character data behind it. -/
def stretches (text : String) : List Stretch :=
  (text.toList.splitOn '<').tail.map Stretch.ofInner

/-- The data behind the tags that are written so, in order. -/
def dataOf (tag : String) (l : List Stretch) : List String :=
  l.filterMap fun p => if p.tag = tag then some p.data else none

/-- The text that character data stands for. -/
def plainText (data : String) : Except Fault String := (unescape data.toList).map String.ofList

theorem plainText_escape (s : String) : plainText (escape s) = .ok s := by
  rw [plainText, escape, String.toList_ofList, unescape_escape]
  exact congrArg Except.ok String.ofList_toList

theorem stretches_of_plain {l : List Stretch} (h : ∀ p ∈ l, p.Plain) {text : String}
    (htext : text.toList = Stretch.chars l) : stretches text = l := by
  have hsplit : text.toList.splitOn '<' = [] :: l.map Stretch.inner := by
    rw [htext, ← List.nil_append (Stretch.chars l), Stretch.append_chars]
    apply List.splitOn_intercalate '<'
    · intro cs hcs
      rcases List.mem_cons.1 hcs with rfl | hmem
      · exact List.not_mem_nil
      · obtain ⟨p, hp, rfl⟩ := List.mem_map.1 hmem
        exact (h p hp).notMem_inner
    · exact List.cons_ne_nil _ _
  have hback : l.map (Stretch.ofInner ∘ Stretch.inner) = l.map id := by
    apply List.map_congr_left
    intro p hp
    exact (h p hp).ofInner_inner
  rw [stretches, hsplit, List.tail_cons, List.map_map, hback, List.map_id]

/-! ### Rendered elements -/

theorem notMem_escape {c : Char} (hc : c ∈ ['<', '>', '"', '\'']) (s : String) :
    c ∉ (escape s).toList := by
  rw [escape, String.toList_ofList, List.mem_flatMap]
  rintro ⟨d, -, hmem⟩
  exact notMem_escapeChar d c hc hmem

theorem IsName.notMem {name : String} (h : IsName name) {c : Char} (hc : c.isAlphanum = false) :
    c ∉ name.toList := by
  intro hmem
  rw [h.alphanum c hmem] at hc
  cases hc

namespace Stretch

theorem plain_start {name : String} (h : IsName name) : Plain ⟨name, ""⟩ := by
  constructor
  · exact ⟨h.notMem (by decide), h.notMem (by decide)⟩
  · simp

theorem plain_finish {name : String} (h : IsName name) : Plain ⟨"/" ++ name, ""⟩ := by
  constructor
  · simp [h.notMem (c := '<') (by decide), h.notMem (c := '>') (by decide)]
  · simp

end Stretch

/-- The tag that begins or ends an element, without its attributes. -/
def Node.tag : Node → String
  | .opened name => name
  | .closed name _ => "/" ++ name

namespace Element

mutual

/-- The tags of an element and of what is in it, with the data behind them. -/
def stretches : Element → List Stretch
  | .text name content => [⟨name, escape content⟩, ⟨"/" ++ name, ""⟩]
  | .quoted name content => [⟨name, "\"" ++ escape content ++ "\""⟩, ⟨"/" ++ name, ""⟩]
  | .node name children => ⟨name, ""⟩ :: (stretchesAll children ++ [⟨"/" ++ name, ""⟩])

def stretchesAll : List Element → List Stretch
  | [] => []
  | e :: l => e.stretches ++ stretchesAll l

end

mutual

theorem plain_stretches (e : Element) (h : e.isNamed = true) : ∀ p ∈ e.stretches, p.Plain := by
  cases e with
  | text name content =>
    rw [isNamed, decide_eq_true_eq] at h
    have hdata := notMem_escape (c := '<') (by decide) content
    rintro p (_ | ⟨_, hp⟩)
    · exact ⟨(Stretch.plain_start h).tag, hdata⟩
    · obtain rfl := List.mem_singleton.1 hp
      exact Stretch.plain_finish h
  | quoted name content =>
    rw [isNamed, decide_eq_true_eq] at h
    have hdata := notMem_escape (c := '<') (by decide) content
    rintro p (_ | ⟨_, hp⟩)
    · exact ⟨(Stretch.plain_start h).tag, by simp [hdata]⟩
    · obtain rfl := List.mem_singleton.1 hp
      exact Stretch.plain_finish h
  | node name children =>
    rw [isNamed, Bool.and_eq_true, decide_eq_true_eq] at h
    rintro p (_ | ⟨_, hp⟩)
    · exact Stretch.plain_start h.1
    · rcases List.mem_append.1 hp with hchild | hlast
      · exact plain_stretchesAll children h.2 p hchild
      · obtain rfl := List.mem_singleton.1 hlast
        exact Stretch.plain_finish h.1

theorem plain_stretchesAll (l : List Element) (h : areNamed l = true) :
    ∀ p ∈ stretchesAll l, p.Plain := by
  cases l with
  | nil =>
    intro p hp
    cases hp
  | cons e l =>
    rw [areNamed, Bool.and_eq_true] at h
    intro p hp
    rcases List.mem_append.1 hp with hfirst | hrest
    · exact plain_stretches e h.1 p hfirst
    · exact plain_stretchesAll l h.2 p hrest

end

mutual

theorem toList_render (e : Element) : e.render.toList = Stretch.chars e.stretches := by
  cases e with
  | text name content => simp [render, stretches, Stretch.chars, Stretch.inner]
  | quoted name content => simp [render, stretches, Stretch.chars, Stretch.inner]
  | node name children =>
    have hchildren := toList_renderAll children
    rw [Stretch.chars] at hchildren
    simp [render, stretches, Stretch.chars, Stretch.inner, hchildren]

theorem toList_renderAll (l : List Element) :
    (renderAll l).toList = Stretch.chars (stretchesAll l) := by
  cases l with
  | nil => rfl
  | cons e l =>
    have hfirst := toList_render e
    have hrest := toList_renderAll l
    rw [Stretch.chars] at hfirst hrest
    simp [renderAll, stretchesAll, Stretch.chars, hfirst, hrest]

end

mutual

/-- A reader that goes by names meets the same tags. -/
theorem map_tag_nodes (e : Element) : e.nodes.map Node.tag = e.stretches.map Stretch.tag := by
  cases e with
  | text name content => rfl
  | quoted name content => rfl
  | node name children =>
    have hchildren := map_tag_nodesAll children
    simp [nodes, stretches, hchildren, Node.tag]

theorem map_tag_nodesAll (l : List Element) :
    (nodesAll l).map Node.tag = (stretchesAll l).map Stretch.tag := by
  cases l with
  | nil => rfl
  | cons e l =>
    have hfirst := map_tag_nodes e
    have hrest := map_tag_nodesAll l
    simp [nodesAll, stretchesAll, hfirst, hrest]

end

theorem stretchesAll_eq_flatMap (l : List Element) : stretchesAll l = l.flatMap stretches := by
  induction l with
  | nil => rfl
  | cons e l ih => rw [stretchesAll, ih, List.flatMap_cons]

end Element

/-- What stands in the tags in front of a document's content. -/
def prologTags (name : String) : List String :=
  ["?xml version=\"1.0\" encoding=\"UTF-8\"?", name ++ " xmlns=\"" ++ serviceNamespace ++ "\""]

/-- **Text does not leave its element.** A document that is written has the tags of its elements
and no others, and behind each of them the text that the element was given, escaped. -/
theorem stretches_renderDocument {name : String} {children : List Element} (hname : IsName name)
    (h : Element.areNamed children = true) :
    stretches (renderDocument name children) =
      (prologTags name).map (⟨·, ""⟩) ++
        (Element.stretchesAll children ++ [⟨"/" ++ name, ""⟩]) := by
  have hnamespace : '<' ∉ serviceNamespace.toList ∧ '>' ∉ serviceNamespace.toList := by
    decide +kernel
  apply stretches_of_plain
  · intro p hp
    rcases List.mem_append.1 hp with hprolog | hrest
    · simp only [prologTags, List.map_cons, List.map_nil, List.mem_cons, List.not_mem_nil,
        or_false] at hprolog
      rcases hprolog with rfl | rfl
      · exact ⟨by decide +kernel, by simp⟩
      · constructor
        · simp [hname.notMem (c := '<') (by decide), hname.notMem (c := '>') (by decide),
            hnamespace]
        · simp
    · rcases List.mem_append.1 hrest with hchild | hlast
      · exact Element.plain_stretchesAll children h p hchild
      · obtain rfl := List.mem_singleton.1 hlast
        exact Stretch.plain_finish hname
  · have hchildren := Element.toList_renderAll children
    rw [Stretch.chars] at hchildren
    simp [renderDocument, xmlDeclaration, prologTags, Stretch.chars, Stretch.inner, hchildren]

end ObjectStore.Xml
