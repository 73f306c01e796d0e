import ObjectStore.Proofs.Xml.Tag
import ObjectStore.Xml.Element
/-!
# Reading documents that are laid out

`Laid elements s` says that the bytes `s` are the elements one after the other, with any
blanks between tags, any attributes, and elements without content written either way.
`Written` adds what may stand in front of the outermost element.

**A document is read as its tree:** the nodes of a written element are the starts and ends in
document order, each end with the text of its element, trimmed (`Document.ofBytes_of_written`).
The reading of a part of a document does not depend on what follows it, so every lemma here
has some `rest` that begins with a tag or is empty.
-/

namespace ObjectStore.Xml

/-- The elements, one after the other, in bytes. -/
inductive Laid : List Element → Bytes → Prop
  | done {blanks : Bytes} (hblanks : AllBlank blanks) : Laid [] blanks
  | text {blanks s : Bytes} {name content : String} {attributes : List (String × String)}
      {l : List Element} (hblanks : AllBlank blanks) (hname : IsName name)
      (hattributes : AreNames attributes) (hl : Laid l s) :
      Laid (.text name content :: l)
        (blanks ++ (startTag name attributes ++ (utf8 (escape content) ++ (endTag name ++ s))))
  | quoted {blanks s : Bytes} {name content : String} {attributes : List (String × String)}
      {l : List Element} (hblanks : AllBlank blanks) (hname : IsName name)
      (hattributes : AreNames attributes) (hl : Laid l s) :
      Laid (.quoted name content :: l)
        (blanks ++ (startTag name attributes ++ (quotedText content ++ (endTag name ++ s))))
  | node {blanks inner s : Bytes} {name : String} {attributes : List (String × String)}
      {children l : List Element} (hblanks : AllBlank blanks) (hname : IsName name)
      (hattributes : AreNames attributes) (hchildren : Laid children inner) (hl : Laid l s) :
      Laid (.node name children :: l)
        (blanks ++ (startTag name attributes ++ (inner ++ (endTag name ++ s))))
  | emptyText {blanks s : Bytes} {name : String} {attributes : List (String × String)}
      {l : List Element} (hblanks : AllBlank blanks) (hname : IsName name)
      (hattributes : AreNames attributes) (hl : Laid l s) :
      Laid (.text name "" :: l) (blanks ++ (emptyTag name attributes ++ s))
  | emptyNode {blanks s : Bytes} {name : String} {attributes : List (String × String)}
      {l : List Element} (hblanks : AllBlank blanks) (hname : IsName name)
      (hattributes : AreNames attributes) (hl : Laid l s) :
      Laid (.node name [] :: l) (blanks ++ (emptyTag name attributes ++ s))

namespace Element

def name : Element → String
  | .text name _ => name
  | .quoted name _ => name
  | .node name _ => name

mutual

/-- The starts and ends of an element and of what is in it. -/
def nodes : Element → List Node
  | .text name content => [.opened name, .closed name (trimmed content)]
  | .quoted name content => [.opened name, .closed name ("\"" ++ content ++ "\"")]
  | .node name children => .opened name :: (nodesAll children ++ [.closed name ""])

def nodesAll : List Element → List Node
  | [] => []
  | e :: l => e.nodes ++ nodesAll l

end

@[simp] theorem nodesAll_append (first second : List Element) :
    nodesAll (first ++ second) = nodesAll first ++ nodesAll second := by
  induction first with
  | nil => rfl
  | cons e first ih => rw [List.cons_append, nodesAll, nodesAll, ih, List.append_assoc]

end Element

/-! ### Names -/

/-- The part of a name after its prefix. -/
def localName (name : String) : String :=
  match name.toList.dropWhile (· != ':') with
  | [] => name
  | _ :: rest => String.ofList rest

theorem IsName.localName_eq {name : String} (h : IsName name) : localName name = name := by
  have hall : ∀ c ∈ name.toList, (c != ':') = true := by
    intro c hc
    rw [bne_iff_ne]
    rintro rfl
    exact absurd (h.alphanum ':' hc) (by decide)
  have hdrop : name.toList.dropWhile (· != ':') = [] := by
    rw [← List.append_nil name.toList, List.dropWhile_append_of_pos hall, List.dropWhile_nil]
  rw [localName, hdrop]

/-- A colon is found by its byte. -/
theorem edged_colon : Text.Edged (· != ':') (· != 58) String.utf8EncodeChar := by
  have hcolon : ∀ c : Char, (c != ':') = false → String.utf8EncodeChar c = [58] := by
    intro c hc
    rw [bne_eq_false_iff_eq] at hc
    rw [hc]
    rfl
  constructor
  · exact fun c => String.utf8EncodeChar_ne_nil
  · intro c hc b hb
    rw [bne_iff_ne] at hc ⊢
    rintro rfl
    have hmem : (58 : UInt8) ∈ utf8 (String.ofList [c]) := by
      rw [utf8_ofList, List.flatMap_singleton]
      exact hb
    rw [mem_utf8_iff (by decide), String.toList_ofList, List.mem_singleton] at hmem
    exact hc hmem.symm
  · intro c hc b hb
    rw [hcolon c hc] at hb
    cases hb
    rfl
  · intro c hc b hb
    rw [hcolon c hc] at hb
    cases hb
    rfl

theorem localPart_utf8 (name : String) : localPart (utf8 name) = utf8 (localName name) := by
  have hdrop := edged_colon.dropWhile_flatMap name.toList
  rw [← utf8_eq] at hdrop
  rw [localPart, localName, hdrop]
  rcases hrest : name.toList.dropWhile (· != ':') with _ | ⟨c, rest⟩
  · rfl
  · -- what is left begins with the colon, which is one byte
    have hc : c = ':' := by
      have hhead := List.head?_dropWhile_not (· != ':') name.toList
      simpa [hrest] using hhead
    subst hc
    show rest.flatMap String.utf8EncodeChar = _
    exact (utf8_ofList rest).symm

namespace Document

/-! ### Reading on -/

/-- The rest of a document, read in the given state. -/
def readFrom (r : Reading) (s : Bytes) : Document := ofTokens (tokens s).2 r (tokens s).1

/-- The document with more nodes in front. -/
def after (d : Document) (nodes : List Node) : Document := ⟨nodes ++ d.nodes, d.root⟩

@[simp] theorem after_nil (d : Document) : d.after [] = d := rfl

@[simp] theorem after_after (d : Document) (first second : List Node) :
    (d.after second).after first = d.after (first ++ second) := by
  simp [after]

theorem tokens_cons {b : UInt8} {s rest : Bytes} {t : Option Token}
    (h : nextToken b s = .ok (t, rest)) :
    tokens (b :: s) = (t.toList ++ (tokens rest).1, (tokens rest).2) := by
  rw [tokens]
  split
  · next heq =>
    rw [h] at heq
    cases heq
  · next heq =>
    rw [h] at heq
    cases heq
    rfl

/-- A construct that leaves no token. -/
theorem readFrom_of_none {b : UInt8} {s rest : Bytes} (h : nextToken b s = .ok (none, rest))
    (r : Reading) : readFrom r (b :: s) = readFrom r rest := by
  rw [readFrom, tokens_cons h]
  rfl

theorem readFrom_of_step {b : UInt8} {s rest : Bytes} {t : Token} {r r' : Reading}
    {nodes : List Node} (h : nextToken b s = .ok (some t, rest))
    (hstep : r.step t = .ok (r', nodes)) :
    readFrom r (b :: s) = (readFrom r' rest).after nodes := by
  rw [readFrom, tokens_cons h]
  simp only [Option.toList_some, List.singleton_append, ofTokens, hstep]
  rfl

section Constructs

variable {name : String} {attributes : List (String × String)} {opened : List Bytes}
  {text : String} {root : Option String}

theorem nameText_utf8 (name : String) : nameText (utf8 name) = name := by
  rw [nameText, Text.Utf8.decode?_utf8]
  rfl

theorem withRoot_utf8 (name : String) (r : Reading) :
    r.withRoot (utf8 name) = .ok { r with root := some (r.root.getD (localName name)) } := by
  obtain ⟨opened, text, root⟩ := r
  cases root with
  | none => simp only [Reading.withRoot, localPart_utf8, Text.Utf8.decode_utf8, Option.getD_none]
  | some root => rfl

theorem readFrom_startTag (h : IsTagName name) (hattributes : AreNames attributes) (r : Reading)
    (rest : Bytes) :
    readFrom r (startTag name attributes ++ rest) =
      (readFrom ⟨utf8 name :: r.opened, "", some (r.root.getD (localName name))⟩ rest).after
        [.opened (localName name)] := by
  have htag := nextToken_startTag h hattributes rest
  have hstep : r.step (.start (utf8 name)) =
      .ok (⟨utf8 name :: r.opened, "", some (r.root.getD (localName name))⟩,
        [.opened (localName name)]) := by
    simp only [Reading.step, withRoot_utf8, localPart_utf8, nameText_utf8]
    rfl
  rw [startTag, List.cons_append, List.append_assoc, List.singleton_append,
    readFrom_of_step htag hstep]

theorem readFrom_endTag (h : IsTagName name) (opened : List Bytes) (text : String)
    (root : Option String) (rest : Bytes) :
    readFrom ⟨utf8 name :: opened, text, root⟩ (endTag name ++ rest) =
      (readFrom ⟨opened, "", root⟩ rest).after [.closed (localName name) text] := by
  have htag := nextToken_endTag h rest
  have hstep : Reading.step ⟨utf8 name :: opened, text, root⟩ (.finish (utf8 name)) =
      .ok (⟨opened, "", root⟩, [.closed (localName name) text]) := by
    simp only [Reading.step, localPart_utf8, nameText_utf8, if_true]
  rw [endTag, List.cons_append, List.cons_append, List.append_assoc, List.singleton_append,
    readFrom_of_step htag hstep]

/-- An element without content reads the same either way. -/
theorem readFrom_emptyTag (h : IsTagName name) (hattributes : AreNames attributes) (r : Reading)
    (rest : Bytes) :
    readFrom r (emptyTag name attributes ++ rest) =
      readFrom r (startTag name attributes ++ (endTag name ++ rest)) := by
  have htag := nextToken_emptyTag h hattributes rest
  have hstep : r.step (.empty (utf8 name)) =
      .ok (⟨r.opened, "", some (r.root.getD (localName name))⟩,
        [.opened (localName name), .closed (localName name) ""]) := by
    simp only [Reading.step, withRoot_utf8, localPart_utf8, nameText_utf8]
    rfl
  rw [readFrom_startTag h hattributes, readFrom_endTag h, after_after, emptyTag, List.cons_append,
    List.append_assoc, List.cons_append, List.singleton_append, readFrom_of_step htag hstep]
  rfl

/-- An element is read as its start, what is in it, and its end with the text left over. -/
theorem readFrom_around (h : IsTagName name) (hattributes : AreNames attributes)
    {opened : List Bytes} {before text : String} {root : Option String} {inner rest : Bytes}
    {nodes : List Node}
    (hinner : readFrom ⟨utf8 name :: opened, "", some (root.getD (localName name))⟩
        (inner ++ (endTag name ++ rest)) =
      (readFrom ⟨utf8 name :: opened, text, some (root.getD (localName name))⟩
        (endTag name ++ rest)).after nodes) :
    readFrom ⟨opened, before, root⟩ (startTag name attributes ++ (inner ++ (endTag name ++ rest))) =
      (readFrom ⟨opened, "", some (root.getD (localName name))⟩ rest).after
        (.opened (localName name) :: (nodes ++ [.closed (localName name) text])) := by
  rw [readFrom_startTag h hattributes, hinner, readFrom_endTag h, after_after, after_after,
    List.singleton_append, List.cons_append]

end Constructs

/-! ### Runs of text -/

theorem runText_utf8_escape (s : String) : Reading.runText (utf8 (escape s)) = .ok s := by
  rw [Reading.runText, Text.Utf8.decode_utf8]
  simp only [escape, String.toList_ofList, unescape_escape, Except.map, String.ofList_toList]

/-- Double quotes around a text are read as they are. -/
theorem runText_quoted (s : String) :
    Reading.runText (quotedText s) = .ok ("\"" ++ s ++ "\"") := by
  have hquote : ∀ total position, unescapeFrom total position ['"'] = .ok ['"'] := by
    intro total position
    rw [unescapeFrom_cons (by decide), unescapeFrom]
    rfl
  have hchars : ("\"" ++ escape s ++ "\"").toList =
      '"' :: (s.toList.flatMap escapeChar ++ ['"']) := by
    simp [escape]
  rw [← utf8_quoted, Reading.runText, Text.Utf8.decode_utf8]
  simp only [hchars, unescape]
  rw [unescapeFrom_cons (by decide)]
  obtain ⟨next, hnext⟩ := unescapeFrom_escape s.toList ['"'] _ _
  rw [hnext, hquote]
  simp only [Except.map, Except.ok.injEq]
  apply String.toList_inj.1
  simp

/-- A run of text is collected as what its trimmed form stands for. -/
theorem readFrom_run {run rest : Bytes} (hrun : 60 ∉ run) (hrest : AtTag rest) {text : String}
    (htext : Reading.runText (Text.trimBoth Text.isXmlBlank run) = .ok text) (r : Reading) :
    readFrom r (run ++ rest) = readFrom { r with text := r.text ++ text } rest := by
  have hnil : Reading.runText [] = .ok "" := by
    exact runText_utf8_escape ""
  have hnone : Text.trimBoth Text.isXmlBlank run = [] →
      readFrom { r with text := r.text ++ text } rest = readFrom r rest := by
    intro htrim
    rw [htrim, hnil] at htext
    cases htext
    rw [String.append_empty]
  cases run with
  | nil => exact (hnone rfl).symm
  | cons b run =>
    have hnext := nextToken_run hrun hrest
    rcases htrim : Text.trimBoth Text.isXmlBlank (b :: run) with _ | ⟨c, trimmed⟩
    · simp only [textToken, htrim] at hnext
      rw [List.cons_append, readFrom_of_none hnext, hnone htrim]
    · simp only [textToken, htrim] at hnext
      have hstep : r.step (.text (c :: trimmed)) = .ok ({ r with text := r.text ++ text }, []) := by
        rw [htrim] at htext
        simp only [Reading.step, htext]
        rfl
      rw [List.cons_append, readFrom_of_step hnext hstep, after_nil]

theorem readFrom_blanks {blanks rest : Bytes} (hblanks : AllBlank blanks) (hrest : AtTag rest)
    (r : Reading) : readFrom r (blanks ++ rest) = readFrom r rest := by
  have hrun : 60 ∉ blanks := fun hmem => absurd (hblanks 60 hmem) (by decide)
  have htrim : Text.trimBoth Text.isXmlBlank blanks = [] := Text.trimBoth_eq_nil.2 hblanks
  have htext : Reading.runText (Text.trimBoth Text.isXmlBlank blanks) = .ok "" := by
    rw [htrim]
    exact runText_utf8_escape ""
  rw [readFrom_run hrun hrest htext, String.append_empty]

theorem readFrom_escape (s : String) {rest : Bytes} (hrest : AtTag rest) (r : Reading) :
    readFrom r (utf8 (escape s) ++ rest) =
      readFrom { r with text := r.text ++ trimmed s } rest := by
  apply readFrom_run (notMem_utf8_escape (by decide) s) hrest
  rw [trimBoth_utf8_escape]
  exact runText_utf8_escape (trimmed s)

theorem readFrom_quoted (s : String) {rest : Bytes} (hrest : AtTag rest) (r : Reading) :
    readFrom r (quotedText s ++ rest) =
      readFrom { r with text := r.text ++ ("\"" ++ s ++ "\"") } rest := by
  have hrun : 60 ∉ quotedText s := by
    simp [quotedText, notMem_utf8_escape (b := 60) (by decide) s]
  have htrim : Text.trimBoth Text.isXmlBlank (quotedText s) = quotedText s := by
    have hquote : Text.isXmlBlank 34 = false := rfl
    rw [Text.trimBoth, quotedText, List.dropWhile_cons_of_neg (by simp [hquote])]
    apply Text.trimEnd_eq_self
    intro b hb
    rw [← List.cons_append, List.getLast?_concat] at hb
    cases hb
    rfl
  apply readFrom_run hrun hrest
  rw [htrim]
  exact runText_quoted s

/-! ### Elements -/

theorem atTag_startTag (name : String) (attributes : List (String × String)) (rest : Bytes) :
    AtTag (startTag name attributes ++ rest) := atTag_cons _

theorem atTag_emptyTag (name : String) (attributes : List (String × String)) (rest : Bytes) :
    AtTag (emptyTag name attributes ++ rest) := atTag_cons _

theorem atTag_endTag (name : String) (rest : Bytes) : AtTag (endTag name ++ rest) :=
  atTag_cons _

/-- The elements that are laid out are read one after the other; the first of them is the root
of a document that has none yet. -/
theorem readFrom_laid {l : List Element} {s : Bytes} (h : Laid l s) {rest : Bytes}
    (hrest : AtTag rest) (opened : List Bytes) (root : Option String) :
    readFrom ⟨opened, "", root⟩ (s ++ rest) =
      (readFrom ⟨opened, "", root.or (l.head?.map Element.name)⟩ rest).after
        (Element.nodesAll l) := by
  -- along the layout; what follows is general, for children are read in front of an end tag and
  -- elements in front of their later siblings
  induction h generalizing rest opened root with
  | done hblanks =>
    rw [readFrom_blanks hblanks hrest, List.head?_nil, Option.map_none, Option.or_none]
    rfl
  | @text _ s name content _ _ hblanks hname hattributes _ ih =>
    have hcontent := readFrom_escape content (atTag_endTag name (s ++ rest))
      ⟨utf8 name :: opened, "", some (root.getD (localName name))⟩
    simp only [List.append_assoc]
    rw [readFrom_blanks hblanks (atTag_startTag _ _ _),
      readFrom_around hname.isTagName hattributes (hcontent.trans (after_nil _).symm)]
    simp only [String.empty_append, ih hrest, after_after, Option.some_or, List.head?_cons,
      Option.map_some, Option.or_some, Element.name, Element.nodesAll, Element.nodes,
      List.cons_append, List.nil_append, hname.localName_eq]
  | @quoted _ s name content _ _ hblanks hname hattributes _ ih =>
    have hcontent := readFrom_quoted content (atTag_endTag name (s ++ rest))
      ⟨utf8 name :: opened, "", some (root.getD (localName name))⟩
    simp only [List.append_assoc]
    rw [readFrom_blanks hblanks (atTag_startTag _ _ _),
      readFrom_around hname.isTagName hattributes (hcontent.trans (after_nil _).symm)]
    simp only [String.empty_append, ih hrest, after_after, Option.some_or, List.head?_cons,
      Option.map_some, Option.or_some, Element.name, Element.nodesAll, Element.nodes,
      List.cons_append, List.nil_append, hname.localName_eq]
  | @node _ _ s name _ _ _ hblanks hname hattributes _ _ ihchildren ih =>
    have hinner := ihchildren (atTag_endTag name (s ++ rest)) (utf8 name :: opened)
      (some (root.getD (localName name)))
    rw [Option.some_or] at hinner
    simp only [List.append_assoc]
    rw [readFrom_blanks hblanks (atTag_startTag _ _ _),
      readFrom_around hname.isTagName hattributes hinner]
    simp only [ih hrest, after_after, Option.some_or, List.head?_cons, Option.map_some,
      Option.or_some, Element.name, Element.nodesAll, Element.nodes, List.append_assoc,
      List.cons_append, List.nil_append, hname.localName_eq]
  | @emptyText _ _ name _ _ hblanks hname hattributes _ ih =>
    simp only [List.append_assoc]
    rw [readFrom_blanks hblanks (atTag_emptyTag _ _ _),
      readFrom_emptyTag hname.isTagName hattributes, readFrom_startTag hname.isTagName hattributes,
      readFrom_endTag hname.isTagName]
    simp only [ih hrest, after_after, Option.some_or, List.head?_cons, Option.map_some,
      Option.or_some, Element.name, Element.nodesAll, Element.nodes, hname.localName_eq]
    rfl
  | @emptyNode _ _ name _ _ hblanks hname hattributes _ ih =>
    simp only [List.append_assoc]
    rw [readFrom_blanks hblanks (atTag_emptyTag _ _ _),
      readFrom_emptyTag hname.isTagName hattributes, readFrom_startTag hname.isTagName hattributes,
      readFrom_endTag hname.isTagName]
    simp only [ih hrest, after_after, Option.some_or, List.head?_cons, Option.map_some,
      Option.or_some, Element.name, Element.nodesAll, Element.nodes, hname.localName_eq]
    rfl

end Document

/-! ### Whole documents -/

/-- `<?xml`, anything without a question mark, and `?>`. -/
def declarationTag (content : Bytes) : Bytes :=
  60 :: 63 :: 120 :: 109 :: 108 :: (content ++ [63, 62])

/-- The element in bytes, with or without a declaration in front. -/
inductive Written (e : Element) : Bytes → Prop
  | bare {s : Bytes} (h : Laid [e] s) : Written e s
  | declared {content s : Bytes} (hcontent : 63 ∉ content) (h : Laid [e] s) :
      Written e (declarationTag content ++ s)

theorem cutMark?_of_notMem {b : UInt8} {mark s : Bytes} (h : b ∉ s) (rest : Bytes) :
    Text.cutMark? (b :: mark) (s ++ (b :: mark ++ rest)) = some (s, rest) := by
  induction s with
  | nil =>
    have hprefix : (b :: mark).isPrefixOf? (b :: mark ++ rest) = some rest :=
      Text.isPrefixOf?_eq_some_iff.2 rfl
    rw [List.nil_append, List.cons_append, Text.cutMark?, ← List.cons_append, hprefix]
  | cons c s ih =>
    rw [List.mem_cons, not_or] at h
    have hprefix : (b :: mark).isPrefixOf? (c :: (s ++ (b :: mark ++ rest))) = none := by
      rcases hp : (b :: mark).isPrefixOf? (c :: (s ++ (b :: mark ++ rest))) with _ | r
      · rfl
      · rw [Text.isPrefixOf?_eq_some_iff, List.cons_append] at hp
        exact absurd (List.cons.inj hp).1.symm h.1
    rw [List.cons_append, Text.cutMark?, hprefix]
    simp only [ih h.2, Option.map_some]

namespace Document

theorem readFrom_declarationTag {content : Bytes} (h : 63 ∉ content) (rest : Bytes)
    (r : Reading) : readFrom r (declarationTag content ++ rest) = readFrom r rest := by
  have hmark : 63 ∉ 120 :: 109 :: 108 :: content := by simp [h]
  have hcut : Text.cutMark? instructionClose (120 :: 109 :: 108 :: (content ++ [63, 62]) ++ rest) =
      some (120 :: 109 :: 108 :: content, rest) := by
    have hcut : Text.cutMark? [63, 62] (120 :: 109 :: 108 :: content ++ ([63, 62] ++ rest)) = _ :=
      cutMark?_of_notMem hmark rest
    rw [← List.append_assoc] at hcut
    exact hcut
  have hnext : nextToken 60 (63 :: 120 :: 109 :: 108 :: (content ++ [63, 62]) ++ rest) =
      .ok (none, rest) := by
    simp only [nextToken, if_true, List.cons_append, markup] at hcut ⊢
    rw [hcut]
    rfl
  exact readFrom_of_none hnext r

theorem ofBytes_eq_readFrom {s : Bytes} (h : s.head? ≠ some 0xEF) :
    ofBytes s = readFrom Reading.start s := by
  have hmark : withoutMark s = s := by
    unfold withoutMark
    split
    · exact absurd rfl h
    · rfl
  rw [ofBytes, hmark]
  rfl

theorem head?_of_laid {e : Element} {l : List Element} {s : Bytes} (h : Laid (e :: l) s) :
    s.head? ≠ some 0xEF := by
  have hblank : ∀ {blanks s : Bytes}, AllBlank blanks →
      (blanks ++ 60 :: s).head? ≠ some 0xEF := by
    intro blanks s hblanks
    cases blanks with
    | nil => simp
    | cons b blanks =>
      rw [List.cons_append, List.head?_cons]
      rintro h
      cases h
      exact absurd (hblanks _ List.mem_cons_self) (by decide)
  cases h with
  | text hblanks => exact hblank hblanks
  | quoted hblanks => exact hblank hblanks
  | node hblanks => exact hblank hblanks
  | emptyText hblanks => exact hblank hblanks
  | emptyNode hblanks => exact hblank hblanks

/-- **A document is read as its tree.** -/
theorem ofBytes_of_written {e : Element} {s : Bytes} (h : Written e s) :
    ofBytes s = ⟨e.nodes, .ok (some e.name)⟩ := by
  have hread : ∀ {s : Bytes}, Laid [e] s →
      readFrom Reading.start s = ⟨e.nodes, .ok (some e.name)⟩ := by
    intro s hs
    have hlaid := readFrom_laid hs atTag_nil [] none
    rw [List.append_nil] at hlaid
    refine hlaid.trans ?_
    simp only [Element.nodesAll, List.append_nil, List.head?_cons, Option.map_some, Option.none_or,
      readFrom, tokens, ofTokens, after]
    rfl
  cases h with
  | bare hs => rw [ofBytes_eq_readFrom (head?_of_laid hs), hread hs]
  | @declared content _ hcontent hs =>
    have hhead : ∀ s, (declarationTag content ++ s).head? ≠ some 0xEF := by
      intro s h
      cases h
    rw [ofBytes_eq_readFrom (hhead _), readFrom_declarationTag hcontent, hread hs]

end Document

theorem readDocument_of_ofBytes {σ : Type} {name : String} {nodes : List Node} {s : Bytes}
    (h : Document.ofBytes s = ⟨nodes, .ok (some name)⟩) (f : σ → Node → Except Fault σ)
    (start : σ) : readDocument name f start s = nodes.foldlM f start := by
  have hroot : expectRoot (some name) name = .ok () := if_pos rfl
  rw [readDocument, h, Document.visit]
  rcases nodes.foldlM f start with fault | result
  · rfl
  · show (expectRoot (some name) name >>= fun _ => Except.ok result) = _
    rw [hroot]
    rfl

/-- What a reader of documents makes of an element. -/
theorem readDocument_of_written {σ : Type} {e : Element} {s : Bytes} (h : Written e s)
    (f : σ → Node → Except Fault σ) (start : σ) :
    readDocument e.name f start s = e.nodes.foldlM f start :=
  readDocument_of_ofBytes (Document.ofBytes_of_written h) f start

/-! ### Visiting elements -/

/-- The name of the element that the node begins or ends. -/
def Node.name : Node → String
  | .opened name => name
  | .closed name _ => name

namespace Element

section

variable {σ : Type} {f : σ → Node → Except Fault σ} {s s' : σ} {name content : String}
  {e : Element} {first children : List Element}

theorem foldlM_pair (hopened : f s (.opened name) = .ok s) (text : String) :
    [Node.opened name, .closed name text].foldlM f s = f s (.closed name text) := by
  rw [List.foldlM_cons, hopened]
  show List.foldlM f s [.closed name text] = _
  rw [List.foldlM_cons]
  rcases f s (.closed name text) with fault | s'
  · rfl
  · rfl

theorem foldlM_text (hopened : f s (.opened name) = .ok s) :
    (Element.text name content).nodes.foldlM f s = f s (.closed name (trimmed content)) :=
  foldlM_pair hopened _

theorem foldlM_quoted (hopened : f s (.opened name) = .ok s) :
    (Element.quoted name content).nodes.foldlM f s =
      f s (.closed name ("\"" ++ content ++ "\"")) :=
  foldlM_pair hopened _

theorem foldlM_node {inside : σ} (hopened : f s (.opened name) = .ok inside)
    (hchildren : (nodesAll children).foldlM f inside = .ok s') :
    (Element.node name children).nodes.foldlM f s = f s' (.closed name "") := by
  rw [nodes, List.foldlM_cons, hopened]
  show List.foldlM f inside (nodesAll children ++ [.closed name ""]) = _
  rw [List.foldlM_append, hchildren]
  show List.foldlM f s' [.closed name ""] = _
  rw [List.foldlM_cons]
  rcases f s' (.closed name "") with fault | s''
  · rfl
  · rfl

theorem foldlM_cons (h : e.nodes.foldlM f s = .ok s') (l : List Element) :
    (nodesAll (e :: l)).foldlM f s = (nodesAll l).foldlM f s' := by
  rw [nodesAll, List.foldlM_append, h]
  rfl

theorem foldlM_append (h : (nodesAll first).foldlM f s = .ok s') (l : List Element) :
    (nodesAll (first ++ l)).foldlM f s = (nodesAll l).foldlM f s' := by
  rw [nodesAll_append, List.foldlM_append, h]
  rfl

/-- Elements that are read one after the other: if each of them adds to what has been shown, then
all of them have been shown in the end. -/
theorem foldlM_map {ι τ : Type} {element : ι → Element} (state : τ → σ)
    (shown : τ → List ι → τ) (hnil : ∀ t, shown t [] = t)
    (hcons : ∀ t i l, shown (shown t [i]) l = shown t (i :: l))
    (hone : ∀ t i, (element i).nodes.foldlM f (state t) = .ok (state (shown t [i])))
    (t : τ) (l : List ι) :
    (nodesAll (l.map element)).foldlM f (state t) = .ok (state (shown t l)) := by
  induction l generalizing t with
  | nil =>
    rw [hnil]
    rfl
  | cons i l ih => rw [List.map_cons, foldlM_cons (hone t i), ih, hcons]

/-- Elements that are collected in a list, one after the other. -/
theorem foldlM_collect {ι β : Type} {element : ι → Element} (state : List β → σ) (value : ι → β)
    (hone : ∀ l i, (element i).nodes.foldlM f (state l) = .ok (state (l ++ [value i])))
    (before : List β) (l : List ι) :
    (nodesAll (l.map element)).foldlM f (state before) = .ok (state (before ++ l.map value)) :=
  foldlM_map state (fun before l => before ++ l.map value)
    (fun before => List.append_nil before)
    (fun before i l => List.append_assoc before [value i] (l.map value)) hone before l

end

end Element

/-! ### What is rendered -/

namespace Element

mutual

def isNamed : Element → Bool
  | .text name _ => decide (IsName name)
  | .quoted name _ => decide (IsName name)
  | .node name children => decide (IsName name) && areNamed children

def areNamed : List Element → Bool
  | [] => true
  | e :: l => e.isNamed && areNamed l

end

theorem areNamed_eq_all (l : List Element) : areNamed l = l.all isNamed := by
  induction l with
  | nil => rfl
  | cons e l ih => rw [areNamed, ih, List.all_cons]

end Element

theorem utf8_startTag (name : String) : utf8 ("<" ++ name ++ ">") = startTag name [] := by
  rw [utf8_append, utf8_append, startTag, tagContent, List.flatMap_nil, List.append_nil]
  rfl

theorem utf8_tagged (name inner : String) :
    utf8 ("<" ++ name ++ ">" ++ inner ++ "</" ++ name ++ ">") =
      startTag name [] ++ (utf8 inner ++ endTag name) := by
  have hend : utf8 "</" ++ (utf8 name ++ utf8 ">") = endTag name := rfl
  rw [utf8_append, utf8_append, utf8_append, utf8_append, utf8_startTag, List.append_assoc,
    List.append_assoc, List.append_assoc, hend]

theorem render_quoted (name content : String) : (Element.quoted name content).render =
    "<" ++ name ++ ">" ++ ("\"" ++ escape content ++ "\"") ++ "</" ++ name ++ ">" := by
  have hfirst : (">\"" : String) = ">" ++ "\"" := rfl
  have hsecond : ("\"</" : String) = "\"" ++ "</" := rfl
  rw [Element.render, hfirst, hsecond]
  simp only [String.append_assoc]

mutual

/-- What is rendered is laid out, without any blanks. -/
theorem laid_render (e : Element) (h : e.isNamed = true) {l : List Element} {s : Bytes}
    (hl : Laid l s) : Laid (e :: l) (utf8 e.render ++ s) := by
  cases e with
  | text name content =>
    rw [Element.isNamed, decide_eq_true_eq] at h
    rw [Element.render, utf8_tagged, List.append_assoc, List.append_assoc]
    exact .text allBlank_nil h areNames_nil hl
  | quoted name content =>
    rw [Element.isNamed, decide_eq_true_eq] at h
    rw [render_quoted, utf8_tagged, utf8_quoted, List.append_assoc, List.append_assoc]
    exact .quoted allBlank_nil h areNames_nil hl
  | node name children =>
    rw [Element.isNamed, Bool.and_eq_true, decide_eq_true_eq] at h
    rw [Element.render, utf8_tagged, List.append_assoc, List.append_assoc]
    exact .node allBlank_nil h.1 areNames_nil (laid_renderAll children h.2) hl

theorem laid_renderAll (l : List Element) (h : Element.areNamed l = true) :
    Laid l (utf8 (Element.renderAll l)) := by
  cases l with
  | nil => exact .done allBlank_nil
  | cons e l =>
    rw [Element.areNamed, Bool.and_eq_true] at h
    rw [Element.renderAll, utf8_append]
    exact laid_render e h.1 (laid_renderAll l h.2)

end

theorem written_render {e : Element} (h : e.isNamed = true) : Written e (utf8 e.render) := by
  have hlaid := laid_render e h (.done allBlank_nil)
  rw [List.append_nil] at hlaid
  exact .bare hlaid

/-- **Round trip.** A document that the program writes is one that it reads as its tree. -/
theorem written_renderDocument {name : String} {children : List Element} (hname : IsName name)
    (h : Element.areNamed children = true) :
    Written (.node name children) (utf8 (renderDocument name children)) := by
  have hbytes : utf8 (renderDocument name children) =
      declarationTag (utf8 " version=\"1.0\" encoding=\"UTF-8\"") ++
        ([] ++ (startTag name [("xmlns", serviceNamespace)] ++
          (utf8 (Element.renderAll children) ++ (endTag name ++ [])))) := by
    have hnamespace : attributeBytes ("xmlns", serviceNamespace) =
        utf8 (" xmlns=\"" ++ serviceNamespace ++ "\"") := by decide +kernel
    have hdeclaration : declarationTag (utf8 " version=\"1.0\" encoding=\"UTF-8\"") =
        utf8 xmlDeclaration := by decide +kernel
    rw [hdeclaration, startTag, tagContent, List.flatMap_singleton, hnamespace]
    simp only [renderDocument, utf8_append, List.append_assoc, List.cons_append, List.nil_append,
      List.append_nil]
    rfl
  have hattribute : AreNames [("xmlns", serviceNamespace)] := by simp [AreNames]
  rw [hbytes]
  exact .declared (by decide +kernel) (.node allBlank_nil hname hattribute
    (laid_renderAll children h) (.done allBlank_nil))

end ObjectStore.Xml
