import ObjectStore.Proofs.Xml.Layout
/-!
# Reading documents with strangers among the elements

A service may say more than a reader asks for.  `Strewn known elements s` says that the bytes `s`
are the elements in order, like `Laid`, but with strangers among them on every level: elements
whose own name is not known to the reader, and neither is the name of any element in them.  There
may be any text in a stranger.

**Strangers change nothing:** a reader that passes over the names that it does not know reads a
document as the tree without strangers (`readDocument_of_strewn`), and a document of items one item
after the other (`readDocument_of_items`).
-/

namespace ObjectStore.Xml

/-- An element in bytes, given its local name and the bytes of its content. -/
inductive Tagged (name : String) : Bytes → Bytes → Prop
  | pair {full : String} {attributes : List (String × String)} {inner : Bytes}
      (hfull : IsTagName full) (hlocal : localName full = name)
      (hattributes : AreNames attributes) :
      Tagged name inner (startTag full attributes ++ (inner ++ endTag full))
  | empty {full : String} {attributes : List (String × String)}
      (hfull : IsTagName full) (hlocal : localName full = name)
      (hattributes : AreNames attributes) : Tagged name [] (emptyTag full attributes)

/-- What is in a stranger: text, and strangers among it. -/
inductive Strange (known : List String) : Bytes → Prop
  | text (content : String) : Strange known (utf8 (escape content))
  | element {inner tagged s : Bytes} {name : String} (content : String)
      (hinner : Strange known inner) (htagged : Tagged name inner tagged) (hname : name ∉ known)
      (hs : Strange known s) : Strange known (utf8 (escape content) ++ (tagged ++ s))

/-- The elements, one after the other, with strangers among them. -/
inductive Strewn (known : List String) : List Element → Bytes → Prop
  | done {blanks : Bytes} (hblanks : AllBlank blanks) : Strewn known [] blanks
  | text {blanks tagged s : Bytes} {name content : String} {l : List Element}
      (hblanks : AllBlank blanks) (htagged : Tagged name (utf8 (escape content)) tagged)
      (hl : Strewn known l s) : Strewn known (.text name content :: l) (blanks ++ (tagged ++ s))
  | quoted {blanks tagged s : Bytes} {name content : String} {l : List Element}
      (hblanks : AllBlank blanks) (htagged : Tagged name (quotedText content) tagged)
      (hl : Strewn known l s) : Strewn known (.quoted name content :: l) (blanks ++ (tagged ++ s))
  | node {blanks inner tagged s : Bytes} {name : String} {children l : List Element}
      (hblanks : AllBlank blanks) (hchildren : Strewn known children inner)
      (htagged : Tagged name inner tagged) (hl : Strewn known l s) :
      Strewn known (.node name children :: l) (blanks ++ (tagged ++ s))
  | stranger {blanks inner tagged s : Bytes} {name : String} {l : List Element}
      (hblanks : AllBlank blanks) (hinner : Strange known inner)
      (htagged : Tagged name inner tagged) (hname : name ∉ known) (hl : Strewn known l s) :
      Strewn known l (blanks ++ (tagged ++ s))

/-- What may stand in front of the outermost element. -/
inductive IsProlog : Bytes → Prop
  | blank {blanks : Bytes} (hblanks : AllBlank blanks) : IsProlog blanks
  | declared {content blanks : Bytes} (hcontent : 63 ∉ content) (hblanks : AllBlank blanks) :
      IsProlog (declarationTag content ++ blanks)

/-- A document with the given outermost element and strangers anywhere in it. -/
inductive StrewnDocument (known : List String) (name : String) (children : List Element) :
    Bytes → Prop
  | intro {prolog inner tagged closing : Bytes} (hprolog : IsProlog prolog)
      (hchildren : Strewn known children inner) (htagged : Tagged name inner tagged)
      (hclosing : AllBlank closing) :
      StrewnDocument known name children (prolog ++ (tagged ++ closing))

theorem tagged_of_isName {name : String} (h : IsName name) (inner : Bytes) :
    Tagged name inner (startTag name [] ++ (inner ++ endTag name)) :=
  .pair h.isTagName h.localName_eq areNames_nil

/-! ### Readers that pass over strangers -/

/-- The nodes that a reader with the given names takes notice of. -/
def heeded (known : List String) (nodes : List Node) : List Node :=
  nodes.filter fun n => n.name ∈ known

theorem heeded_append (known : List String) (first second : List Node) :
    heeded known (first ++ second) = heeded known first ++ heeded known second :=
  List.filter_append first second

theorem heeded_around {known : List String} {inside inside' : List Node}
    (h : heeded known inside = heeded known inside') (name text : String) :
    heeded known (.opened name :: (inside ++ [.closed name text])) =
      heeded known (.opened name :: (inside' ++ [.closed name text])) := by
  have hsplit : ∀ nodes : List Node, .opened name :: (nodes ++ [.closed name text]) =
      [.opened name] ++ (nodes ++ [.closed name text]) := fun _ => rfl
  rw [hsplit, hsplit]
  simp only [heeded_append, h]

theorem heeded_around_stranger {known : List String} {inside : List Node} {name : String}
    (hname : name ∉ known) (h : heeded known inside = []) (text : String) :
    heeded known (.opened name :: (inside ++ [.closed name text])) = [] := by
  have hinside : heeded known inside = heeded known [] := h
  rw [heeded_around hinside]
  simp [heeded, Node.name, hname]

section

variable {σ : Type} {f : σ → Node → Except Fault σ} {known : List String}

/-- The reader takes no notice of names that are not known. -/
def PassesOver (f : σ → Node → Except Fault σ) (known : List String) : Prop :=
  ∀ n, n.name ∉ known → ∀ x, f x n = .ok x

theorem PassesOver.of_names (hopened : ∀ name, name ∉ known → ∀ x, f x (.opened name) = .ok x)
    (hclosed : ∀ name, name ∉ known → ∀ x text, f x (.closed name text) = .ok x) :
    PassesOver f known := by
  intro n hn x
  cases n with
  | opened name => exact hopened name hn x
  | closed name text => exact hclosed name hn x text

theorem foldlM_heeded (h : PassesOver f known) (nodes : List Node) (x : σ) :
    (heeded known nodes).foldlM f x = nodes.foldlM f x := by
  induction nodes generalizing x with
  | nil => rfl
  | cons n nodes ih =>
    by_cases hn : n.name ∈ known
    · rw [heeded, List.filter_cons_of_pos (by simpa using hn), List.foldlM_cons, List.foldlM_cons]
      exact congrArg _ (funext ih)
    · rw [heeded, List.filter_cons_of_neg (by simpa using hn), List.foldlM_cons, h n hn]
      exact ih x

end

/-! ### Reading on -/

namespace Document

theorem atTag_tagged {name : String} {inner tagged : Bytes} (h : Tagged name inner tagged)
    (rest : Bytes) : AtTag (tagged ++ rest) := by
  cases h with
  | pair => exact atTag_cons _
  | empty => exact atTag_cons _

/-- In a document with the given first element the bytes are read as the nodes, and the text is
left over at their end. -/
def Reads (root : String) (s : Bytes) (text : String) (nodes : List Node) : Prop :=
  ∀ opened {rest}, AtTag rest → readFrom ⟨opened, "", some root⟩ (s ++ rest) =
    (readFrom ⟨opened, text, some root⟩ rest).after nodes

section

variable {root name text left : String} {run inner tagged s : Bytes} {inside nodes : List Node}

theorem reads_blanks (h : AllBlank run) : Reads root run "" [] := by
  intro opened rest hrest
  rw [readFrom_blanks h hrest, after_nil]

theorem reads_escape (content : String) :
    Reads root (utf8 (escape content)) (trimmed content) [] := by
  intro opened rest hrest
  rw [readFrom_escape content hrest, String.empty_append, after_nil]

theorem reads_quoted (content : String) :
    Reads root (quotedText content) ("\"" ++ content ++ "\"") [] := by
  intro opened rest hrest
  rw [readFrom_quoted content hrest, String.empty_append, after_nil]

/-- An element is read as its start, what is in it, and its end with the text left over. -/
theorem readFrom_tagged (h : Tagged name inner tagged) (root : Option String)
    (hinner : Reads (root.getD name) inner text inside) (opened : List Bytes) (before : String)
    (rest : Bytes) :
    readFrom ⟨opened, before, root⟩ (tagged ++ rest) =
      (readFrom ⟨opened, "", some (root.getD name)⟩ rest).after
        (.opened name :: (inside ++ [.closed name text])) := by
  cases h with
  | @pair full attributes _ hfull hlocal hattributes =>
    subst hlocal
    rw [List.append_assoc, List.append_assoc]
    exact readFrom_around hfull hattributes (hinner _ (atTag_endTag full rest))
  | @empty full attributes hfull hlocal hattributes =>
    subst hlocal
    rw [readFrom_emptyTag hfull hattributes]
    exact readFrom_around hfull hattributes (hinner _ (atTag_endTag full rest))

/-- A run of text in front of an element is forgotten. -/
theorem reads_cons (hrun : Reads root run left []) (htagged : Tagged name inner tagged)
    (hinner : Reads root inner text inside) {after : String} (hs : Reads root s after nodes) :
    Reads root (run ++ (tagged ++ s)) after
      (.opened name :: (inside ++ [.closed name text]) ++ nodes) := by
  intro opened rest hrest
  rw [List.append_assoc, List.append_assoc, hrun opened (atTag_tagged htagged _), after_nil,
    readFrom_tagged htagged (some root) hinner, Option.getD_some, hs opened hrest, after_after]

end

variable {known : List String} {s : Bytes}

/-- In a stranger there is nothing that is known. -/
theorem exists_reads_of_strange (h : Strange known s) (root : String) :
    ∃ text nodes, Reads root s text nodes ∧ heeded known nodes = [] := by
  induction h with
  | text content => exact ⟨trimmed content, [], reads_escape content, rfl⟩
  | element content _ htagged hname _ ihinner ih =>
    obtain ⟨text, inside, hinner, hinside⟩ := ihinner
    obtain ⟨after, nodes, hs, hnodes⟩ := ih
    refine ⟨after, _, reads_cons (reads_escape content) htagged hinner hs, ?_⟩
    rw [heeded_append, hnodes, heeded_around_stranger hname hinside]
    rfl

/-- Elements are read as their tree, with nodes among it that are not known. -/
theorem exists_reads_of_strewn {l : List Element} (h : Strewn known l s) (root : String) :
    ∃ nodes, Reads root s "" nodes ∧ heeded known nodes = heeded known (Element.nodesAll l) := by
  induction h with
  | done hblanks => exact ⟨[], reads_blanks hblanks, rfl⟩
  | @text _ _ _ name content _ hblanks htagged _ ih =>
    obtain ⟨nodes, hs, hnodes⟩ := ih
    refine ⟨_, reads_cons (reads_blanks hblanks) htagged (reads_escape content) hs, ?_⟩
    rw [heeded_append, hnodes, Element.nodesAll, heeded_append]
    rfl
  | @quoted _ _ _ name content _ hblanks htagged _ ih =>
    obtain ⟨nodes, hs, hnodes⟩ := ih
    refine ⟨_, reads_cons (reads_blanks hblanks) htagged (reads_quoted content) hs, ?_⟩
    rw [heeded_append, hnodes, Element.nodesAll, heeded_append]
    rfl
  | node hblanks _ htagged _ ihchildren ih =>
    obtain ⟨inside, hinner, hinside⟩ := ihchildren
    obtain ⟨nodes, hs, hnodes⟩ := ih
    refine ⟨_, reads_cons (reads_blanks hblanks) htagged hinner hs, ?_⟩
    rw [heeded_append, hnodes, Element.nodesAll, heeded_append, Element.nodes,
      heeded_around hinside]
  | stranger hblanks hinner htagged hname _ ih =>
    obtain ⟨text, inside, hinner, hinside⟩ := exists_reads_of_strange hinner root
    obtain ⟨nodes, hs, hnodes⟩ := ih
    refine ⟨_, reads_cons (reads_blanks hblanks) htagged hinner hs, ?_⟩
    rw [heeded_append, hnodes, heeded_around_stranger hname hinside, List.nil_append]

/-! ### Whole documents -/

theorem readFrom_prolog {prolog rest : Bytes} (h : IsProlog prolog) (hrest : AtTag rest)
    (r : Reading) : readFrom r (prolog ++ rest) = readFrom r rest := by
  cases h with
  | blank hblanks => exact readFrom_blanks hblanks hrest r
  | declared hcontent hblanks =>
    rw [List.append_assoc, readFrom_declarationTag hcontent, readFrom_blanks hblanks hrest]

theorem head?_of_prolog {prolog rest : Bytes} (h : IsProlog prolog) (hrest : AtTag rest) :
    (prolog ++ rest).head? ≠ some 0xEF := by
  intro hmark
  cases h with
  | declared => cases hmark
  | blank hblanks =>
    cases prolog with
    | nil => exact absurd (hrest _ hmark) (by decide)
    | cons b blanks =>
      cases hmark
      exact absurd (hblanks _ List.mem_cons_self) (by decide)

/-- A document with strangers in it has the nodes of its tree, as far as they are known. -/
theorem exists_ofBytes_of_strewn {name : String} {children : List Element}
    (h : StrewnDocument known name children s) :
    ∃ nodes, ofBytes s = ⟨nodes, .ok (some name)⟩ ∧
      heeded known nodes = heeded known (Element.node name children).nodes := by
  obtain @⟨prolog, inner, tagged, closing, hprolog, hchildren, htagged, hclosing⟩ := h
  obtain ⟨inside, hinner, hinside⟩ := exists_reads_of_strewn hchildren name
  have hread := readFrom_tagged htagged none hinner [] "" closing
  have hend := readFrom_blanks hclosing atTag_nil ⟨[], "", some name⟩
  rw [List.append_nil] at hend
  refine ⟨.opened name :: (inside ++ [.closed name ""]), ?_, ?_⟩
  · have htag := atTag_tagged htagged closing
    rw [ofBytes_eq_readFrom (head?_of_prolog hprolog htag), readFrom_prolog hprolog htag]
    refine hread.trans ?_
    rw [Option.getD_none, hend, readFrom, tokens, ofTokens, after, List.append_nil]
    rfl
  · rw [Element.nodes, heeded_around hinside]

end Document

/-- **Strangers change nothing.** -/
theorem readDocument_of_strewn {σ : Type} {known : List String} {name : String}
    {children : List Element} {s : Bytes} (h : StrewnDocument known name children s)
    {f : σ → Node → Except Fault σ} (hf : PassesOver f known) (start : σ) :
    readDocument name f start s = (Element.node name children).nodes.foldlM f start := by
  obtain ⟨nodes, hread, hnodes⟩ := Document.exists_ofBytes_of_strewn h
  rw [readDocument_of_ofBytes hread, ← foldlM_heeded hf, hnodes, foldlM_heeded hf]

/-- A document of items is read as what they show one after the other. -/
theorem readDocument_of_items {σ ι τ : Type} {known : List String} {root : String}
    {element : ι → Element} {items : List ι} {s : Bytes}
    (h : StrewnDocument known root (items.map element) s)
    {f : σ → Node → Except Fault σ} (hf : PassesOver f known) (state : τ → σ)
    (shown : τ → List ι → τ) (hnil : ∀ t, shown t [] = t)
    (hcons : ∀ t i l, shown (shown t [i]) l = shown t (i :: l))
    (hone : ∀ t i, (element i).nodes.foldlM f (state t) = .ok (state (shown t [i])))
    (hopened : ∀ t, f (state t) (.opened root) = .ok (state t))
    (hclosed : ∀ t, f (state t) (.closed root "") = .ok (state t)) (t : τ) :
    readDocument root f (state t) s = .ok (state (shown t items)) := by
  have hitems := Element.foldlM_map state shown hnil hcons hone t items
  rw [readDocument_of_strewn h hf, Element.foldlM_node (hopened t) hitems]
  exact hclosed _

end ObjectStore.Xml
