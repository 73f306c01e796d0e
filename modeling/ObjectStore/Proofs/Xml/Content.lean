import ObjectStore.Proofs.Xml.Cut
/-!
# What is read as a document

*Content* is what may stand in an element: elements, text and CDATA sections in any order
(`Content`).  A document is content of a special kind, one element with nothing but blanks around
it (`isSingle`), but no reader asks for that.

**Any content with an element in it is read as a document** (`Document.ofBytes_eq_iff`).  All
outermost elements are visited one after the other, only the first of them is asked for its name,
and text outside them is dropped.  So what stands behind a whole document is read on as a part of
it (`ContentOf.append`), and a reader that does not know the elements there takes no notice of them
(`IsReader.takesContent`).
-/

namespace ObjectStore.Xml

/-! ### Content -/

/-- Content: its tokens, the nodes of its elements, and the text behind the last tag. -/
inductive Content : List Token → List Node → String → Prop
  | nil : Content [] [] ""
  | text {ts : List Token} {nodes : List Node} {text more : String} {run : Bytes}
      (h : Content ts nodes text) (hread : Reading.runText run = .ok more) :
      Content (ts ++ [.text run]) nodes (text ++ more)
  | cdata {ts : List Token} {nodes : List Node} {text more : String} {content : Bytes}
      (h : Content ts nodes text) (hread : Text.Utf8.decode content = .ok more) :
      Content (ts ++ [.cdata content]) nodes (text ++ more)
  | empty {ts : List Token} {nodes : List Node} {text : String} (name : Bytes)
      (h : Content ts nodes text) :
      Content (ts ++ [.empty name])
        (nodes ++ [.opened (nameText (localPart name)), .closed (nameText (localPart name)) ""]) ""
  | element {ts inner : List Token} {nodes innerNodes : List Node} {text innerText : String}
      (name : Bytes) (h : Content ts nodes text) (hinner : Content inner innerNodes innerText) :
      Content (ts ++ (.start name :: (inner ++ [.finish name])))
        (nodes ++ (.opened (nameText (localPart name)) ::
          (innerNodes ++ [.closed (nameText (localPart name)) innerText]))) ""

theorem Content.append {first second : List Token} {nodes nodes' : List Node} {text text' : String}
    (h : Content first nodes text) (h' : Content second nodes' text') :
    ∃ text, Content (first ++ second) (nodes ++ nodes') text := by
  induction h' with
  | nil => exact ⟨text, by simpa using h⟩
  | text _ hread ih =>
    obtain ⟨text, h⟩ := ih
    exact ⟨_, by simpa using h.text hread⟩
  | cdata _ hread ih =>
    obtain ⟨text, h⟩ := ih
    exact ⟨_, by simpa using h.cdata hread⟩
  | empty name _ ih =>
    obtain ⟨text, h⟩ := ih
    exact ⟨_, by simpa using h.empty name⟩
  | element name _ hinner ih =>
    obtain ⟨text, h⟩ := ih
    exact ⟨_, by simpa using h.element name hinner⟩

/-! ### Content that is begun -/

/-- What is read up to some place: content in which elements are still open, with the nodes so far
and the text behind the last tag. -/
inductive Begun : List Token → List Bytes → List Node → String → Prop
  | content {ts : List Token} {nodes : List Node} {text : String} (h : Content ts nodes text) :
      Begun ts [] nodes text
  | inside {ts inner : List Token} {opened : List Bytes} {nodes innerNodes : List Node}
      {text innerText : String} (name : Bytes) (h : Begun ts opened nodes text)
      (hinner : Content inner innerNodes innerText) :
      Begun (ts ++ .start name :: inner) (name :: opened)
        (nodes ++ .opened (nameText (localPart name)) :: innerNodes) innerText

theorem Begun.extend {ts more : List Token} {opened : List Bytes} {nodes moreNodes : List Node}
    {text text' : String} (h : Begun ts opened nodes text)
    (hmore : ∀ {ts nodes}, Content ts nodes text →
      Content (ts ++ more) (nodes ++ moreNodes) text') :
    Begun (ts ++ more) opened (nodes ++ moreNodes) text' := by
  cases h with
  | content h => exact .content (hmore h)
  | inside name h hinner =>
    rw [List.append_assoc, List.append_assoc]
    exact .inside name h (hmore hinner)

theorem Begun.step {ts : List Token} {r r' : Reading} {t : Token} {nodes more : List Node}
    (h : Begun ts r.opened nodes r.text) (hstep : r.step t = .ok (r', more)) :
    Begun (ts ++ [t]) r'.opened (nodes ++ more) r'.text ∧ Named r.root [t] r'.root := by
  have hread := Reading.step_eq_ok_iff.1 hstep
  cases hread with
  | start name hname => exact ⟨.inside name h .nil, hname⟩
  | empty name hname => exact ⟨h.extend fun h => h.empty name, hname⟩
  | text hread =>
    refine ⟨h.extend fun h => ?_, (named_singleton_iff_of_begun?_eq_none rfl).2 rfl⟩
    rw [List.append_nil]
    exact h.text hread
  | cdata hread =>
    refine ⟨h.extend fun h => ?_, (named_singleton_iff_of_begun?_eq_none rfl).2 rfl⟩
    rw [List.append_nil]
    exact h.cdata hread
  | finish name =>
    cases h with
    | inside _ h hinner =>
      rw [List.append_assoc, List.append_assoc]
      exact ⟨h.extend fun h => h.element name hinner,
        (named_singleton_iff_of_begun?_eq_none rfl).2 rfl⟩

/-! ### Reading content -/

namespace Document

/-- Content is read as its nodes, whatever follows it. -/
theorem ofTokens_content {ts : List Token} {nodes : List Node} {text : String}
    (h : Content ts nodes text) {root root' : Option String} (hroot : Named root ts root')
    (fault : Option Fault) (opened : List Bytes) (rest : List Token) :
    ofTokens fault ⟨opened, "", root⟩ (ts ++ rest) =
      (ofTokens fault ⟨opened, text, root'⟩ rest).after nodes := by
  -- over the content; the open elements are general, for what is in an element is read with one
  -- more of them
  induction h generalizing root root' opened rest with
  | nil =>
    cases hroot with
    | known => rfl
    | bare => rfl
    | first h => cases h
  | text _ hread ih =>
    obtain ⟨mid, hmid, hroot⟩ := named_append.1 hroot
    obtain rfl := (named_singleton_iff_of_begun?_eq_none rfl).1 hroot
    rw [List.append_assoc, ih hmid, List.singleton_append, ofTokens_of_reads (.text hread),
      after_nil]
  | cdata _ hread ih =>
    obtain ⟨mid, hmid, hroot⟩ := named_append.1 hroot
    obtain rfl := (named_singleton_iff_of_begun?_eq_none rfl).1 hroot
    rw [List.append_assoc, ih hmid, List.singleton_append, ofTokens_of_reads (.cdata hread),
      after_nil]
  | empty name _ ih =>
    obtain ⟨mid, hmid, hroot⟩ := named_append.1 hroot
    rw [List.append_assoc, ih hmid, List.singleton_append, ofTokens_of_reads (.empty name hroot),
      after_after]
  | element name _ _ ih ihinner =>
    rw [← List.singleton_append] at hroot
    obtain ⟨first, hfirst, hroot⟩ := named_append.1 hroot
    obtain ⟨mid, hmid, hroot⟩ := named_append.1 hroot
    obtain ⟨last, hlast, hroot⟩ := named_append.1 hroot
    obtain rfl := (named_singleton_iff_of_begun?_eq_none rfl).1 hroot
    rw [List.append_assoc, ih hfirst, List.cons_append, ofTokens_of_reads (.start name hmid),
      List.append_assoc, ihinner hlast, List.singleton_append, ofTokens_of_reads (.finish name)]
    simp only [after_after, List.cons_append, List.nil_append]

theorem exists_fault_of_ofTokens (fault : Fault) (r : Reading) (ts : List Token) :
    ∃ f, (ofTokens (some fault) r ts).root = .error f := by
  induction ts generalizing r with
  | nil => exact ⟨fault, rfl⟩
  | cons t ts ih =>
    rcases hstep : r.step t with f | ⟨r', nodes⟩
    · exact ⟨f, by rw [ofTokens, hstep]⟩
    · obtain ⟨f, hf⟩ := ih r'
      exact ⟨f, by rw [ofTokens_of_reads (Reading.step_eq_ok_iff.1 hstep)]; exact hf⟩

/-- What is read to its end is content. -/
theorem content_of_ofTokens {ts done : List Token} {r : Reading} {nodes more : List Node}
    {root : Option String} (h : Begun done r.opened nodes r.text)
    (hread : ofTokens none r ts = ⟨more, .ok root⟩) :
    (∃ text, Content (done ++ ts) (nodes ++ more) text) ∧ Named r.root ts root := by
  -- over the tokens to come; the end is reached only with no element open, and what is begun with
  -- none open is content
  induction ts generalizing done r nodes more with
  | nil =>
    rw [ofTokens] at hread
    split at hread
    · next hempty =>
      cases hread
      rw [List.isEmpty_iff] at hempty
      rw [hempty] at h
      cases h with
      | content h =>
        rw [List.append_nil, List.append_nil]
        exact ⟨⟨_, h⟩, named_nil _⟩
    · cases hread
  | cons t ts ih =>
    rcases hstep : r.step t with f | ⟨r', first⟩
    · rw [ofTokens, hstep] at hread
      cases hread
    · rw [ofTokens_of_reads (Reading.step_eq_ok_iff.1 hstep)] at hread
      obtain ⟨hbegun, hnamed⟩ := h.step hstep
      rcases hrest : ofTokens none r' ts with ⟨later, end'⟩
      rw [hrest, after] at hread
      cases hread
      obtain ⟨⟨text, hcontent⟩, hroot⟩ := ih hbegun hrest
      rw [List.append_assoc, List.append_assoc] at hcontent
      exact ⟨⟨text, hcontent⟩, named_append.2 ⟨r'.root, hnamed, hroot⟩⟩

end Document

/-! ### Byte strings -/

/-- The tokens of a byte string, without the byte-order mark that may precede it. -/
def bodyTokens (s : Bytes) : List Token × Option Fault := tokens (Document.withoutMark s)

/-- A byte string that is content: its nodes and the name of its first element. -/
structure ContentOf (s : Bytes) (nodes : List Node) (name : String) : Prop where
  closed : (bodyTokens s).2 = none
  content : ∃ text, Content (bodyTokens s).1 nodes text
  named : Named none (bodyTokens s).1 (some name)

theorem Document.ofBytes_eq_iff {s : Bytes} {nodes : List Node} {name : String} :
    ofBytes s = ⟨nodes, .ok (some name)⟩ ↔ ContentOf s nodes name := by
  have hread : ofBytes s = ofTokens (bodyTokens s).2 Reading.start (bodyTokens s).1 := rfl
  rw [hread]
  constructor
  · intro h
    rcases hclosed : (bodyTokens s).2 with _ | fault
    · rw [hclosed] at h
      obtain ⟨hcontent, hnamed⟩ := content_of_ofTokens (.content .nil) h
      exact ⟨hclosed, hcontent, hnamed⟩
    · obtain ⟨f, hf⟩ := exists_fault_of_ofTokens fault Reading.start (bodyTokens s).1
      rw [hclosed] at h
      rw [h] at hf
      cases hf
  · rintro ⟨hclosed, ⟨text, hcontent⟩, hnamed⟩
    have hall := ofTokens_content hcontent hnamed none [] []
    rw [List.append_nil] at hall
    rw [hclosed]
    refine hall.trans ?_
    simp [ofTokens, after]

/-! ### What stands behind a document -/

theorem eq_of_endsOutermost {depth : Nat} {b : UInt8} {s rest : Bytes} {t : Token}
    (h : nextToken b s = .ok (some t, rest)) (hends : t.EndsOutermost depth) : b = 60 := by
  rw [nextToken] at h
  split at h
  · assumption
  · have ht := (Prod.mk.inj (Except.ok.inj h)).1
    rcases textToken_cases (b :: s.takeWhile (· != 60)) with htext | ⟨run, htext⟩
    · rw [htext] at ht
      cases ht
    · rw [htext] at ht
      cases ht
      exact hends.elim

theorem afterFirst?_of_notMem {s : Bytes} (h : 60 ∉ s) (depth : Nat) :
    afterFirst? depth s = none := by
  have hnil : afterFirst? depth [] = none := by rw [afterFirst?]
  cases s with
  | nil => exact hnil
  | cons b s =>
    rw [afterFirst?_cons, nextToken_run_end h]
    rcases textToken_cases (b :: s) with htext | ⟨run, htext⟩
    · rw [htext]
      exact hnil
    · rw [htext]
      exact (if_neg id).trans hnil

/-- The tokens behind the first outermost element are those of the bytes behind it. -/
theorem tokens_append {depth : Nat} {s : Bytes} (hend : afterFirst? depth s = some [])
    (rest : Bytes) : tokens (s ++ rest) = ((tokens s).1 ++ (tokens rest).1, (tokens rest).2) := by
  match s with
  | [] =>
    rw [afterFirst?] at hend
    cases hend
  | b :: s =>
    rw [afterFirst?_cons] at hend
    rcases hnext : nextToken b s with f | ⟨t, left⟩
    · rw [hnext] at hend
      cases hend
    · have hlength := length_nextToken hnext
      rw [hnext] at hend
      have hgo : ∀ {depth}, afterFirst? depth left = some [] →
          tokens (b :: s ++ rest) =
            ((tokens (b :: s)).1 ++ (tokens rest).1, (tokens rest).2) := by
        intro depth hend
        have hleft : left ≠ [] := by
          rintro rfl
          rw [afterFirst?] at hend
          cases hend
        rw [List.cons_append, Document.tokens_cons (nextToken_append hnext (.inr hleft) rest),
          Document.tokens_cons hnext, tokens_append hend rest, List.append_assoc]
      cases t with
      | none => exact hgo hend
      | some t =>
        dsimp only at hend
        split at hend
        · next hends =>
          cases hend
          have htag := eq_of_endsOutermost hnext hends
          rw [List.cons_append, Document.tokens_cons (nextToken_append hnext (.inl htag) rest),
            Document.tokens_cons hnext, List.nil_append, tokens, List.append_nil]
        · exact hgo hend
  termination_by s.length
  decreasing_by rw [List.length_cons]; omega

theorem bodyTokens_append {s : Bytes} (hend : EndsWithRoot s) (rest : Bytes) :
    bodyTokens (s ++ rest) = ((bodyTokens s).1 ++ (tokens rest).1, (tokens rest).2) := by
  have hmark : Document.withoutMark (s ++ rest) = Document.withoutMark s ++ rest := by
    rcases Document.withoutMark_append s rest with hmark | hpart
    · exact hmark
    · -- a part of the byte-order mark has no element in it
      have htag : 60 ∉ Document.withoutMark s := by
        simp only [List.mem_cons, List.not_mem_nil, or_false] at hpart
        rcases hpart with rfl | rfl | rfl <;> decide
      rw [EndsWithRoot, afterFirst?_of_notMem htag] at hend
      cases hend
  rw [bodyTokens, hmark, tokens_append hend rest]
  rfl

/-- **What stands behind a whole document is read on as a part of it.** -/
theorem ContentOf.append {s rest : Bytes} {nodes more : List Node} {name text : String}
    (h : ContentOf s nodes name) (hend : EndsWithRoot s) (hclosed : (tokens rest).2 = none)
    (hrest : Content (tokens rest).1 more text) : ContentOf (s ++ rest) (nodes ++ more) name := by
  obtain ⟨_, ⟨first, hcontent⟩, hnamed⟩ := h
  have htokens := bodyTokens_append hend rest
  constructor
  · rw [htokens]
    exact hclosed
  · rw [htokens]
    exact hcontent.append hrest
  · rw [htokens]
    exact named_append.2 ⟨some name, hnamed, .known name _⟩

/-! ### One outermost element -/

/-- The tokens that no element is around, without the ends of elements. -/
def outermost (depth : Nat) : List Token → List Token
  | [] => []
  | t :: ts =>
    if depth = 0 then t :: outermost (t.depthAfter depth) ts
    else outermost (t.depthAfter depth) ts

/-- Whether a token is more than blanks, as a run of text always is. -/
def Token.isSolid : Token → Bool
  | .cdata content => !content.all Text.isXmlBlank
  | _ => true

/-- Whether a byte string has one outermost element and nothing but blanks around it. -/
def isSingle (s : Bytes) : Bool :=
  match (outermost 0 (bodyTokens s).1).filter Token.isSolid with
  | [t] => t.begun?.isSome
  | _ => false

example : isSingle (utf8 "<?xml version=\"1.0\"?> <a>b<c/></a> <!-- d -->") = true := by
  decide +kernel

theorem Content.outermost_succ {ts : List Token} {nodes : List Node} {text : String}
    (h : Content ts nodes text) (depth : Nat) (rest : List Token) :
    outermost (depth + 1) (ts ++ rest) = outermost (depth + 1) rest := by
  induction h generalizing depth rest with
  | nil => rfl
  | text _ _ ih | cdata _ _ ih | empty _ _ ih =>
    rw [List.append_assoc, ih]
    rfl
  | element name _ _ ih ihinner =>
    rw [List.append_assoc, ih, List.cons_append, List.append_assoc]
    show outermost (depth + 2) _ = _
    rw [ihinner]
    rfl

theorem Content.outermost_append {ts : List Token} {nodes : List Node} {text : String}
    (h : Content ts nodes text) (rest : List Token) :
    outermost 0 (ts ++ rest) = outermost 0 ts ++ outermost 0 rest := by
  induction h generalizing rest with
  | nil => rfl
  | text _ _ ih | cdata _ _ ih | empty _ _ ih =>
    rw [List.append_assoc, ih, ih, List.append_assoc]
    rfl
  | @element ts inner _ _ _ _ name _ hinner ih _ =>
    have hstart : ∀ rest, outermost 0 (.start name :: (inner ++ [.finish name]) ++ rest) =
        .start name :: outermost 0 rest := by
      intro rest
      rw [List.cons_append, List.append_assoc]
      show .start name :: outermost 1 _ = _
      rw [hinner.outermost_succ 0]
      rfl
    have hlast := hstart []
    rw [List.append_nil] at hlast
    rw [List.append_assoc, ih, ih, hstart, hlast, List.append_assoc]
    rfl

theorem Content.exists_begun {ts : List Token} {nodes : List Node} {text : String}
    (h : Content ts nodes text) (hnamed : ts.findSome? Token.begun? ≠ none) :
    ∃ t ∈ outermost 0 ts, t.begun? ≠ none := by
  induction h with
  | nil => exact absurd rfl hnamed
  | text h _ ih | cdata h _ ih =>
    rw [List.findSome?_append] at hnamed
    obtain ⟨t, ht, hbegun⟩ := ih fun hnone => hnamed (by rw [hnone]; rfl)
    refine ⟨t, ?_, hbegun⟩
    rw [h.outermost_append]
    exact List.mem_append_left _ ht
  | empty name h _ =>
    refine ⟨.empty name, ?_, nofun⟩
    rw [h.outermost_append]
    exact List.mem_append_right _ List.mem_cons_self
  | element name h _ _ _ =>
    refine ⟨.start name, ?_, nofun⟩
    rw [h.outermost_append]
    exact List.mem_append_right _ List.mem_cons_self

/-- With anything but blanks behind it a document is no single element any more. -/
theorem ContentOf.isSingle_append {s rest : Bytes} {nodes : List Node} {name : String}
    (h : ContentOf s nodes name) (hend : EndsWithRoot s) {t : Token}
    (ht : t ∈ outermost 0 (tokens rest).1) (hsolid : t.isSolid = true) :
    isSingle (s ++ rest) = false := by
  obtain ⟨_, ⟨text, hcontent⟩, hnamed⟩ := h
  obtain ⟨first, hfirst, hbegun⟩ := hcontent.exists_begun (by
    cases hnamed with
    | first hraw => rw [hraw]; nofun)
  have hfirst' : first.isSolid = true := by
    cases first with
    | cdata => exact absurd rfl hbegun
    | _ => rfl
  have hcount : 2 ≤ ((outermost 0 (bodyTokens (s ++ rest)).1).filter Token.isSolid).length := by
    have hleft := List.length_pos_of_mem (List.mem_filter.2 ⟨hfirst, hfirst'⟩)
    have hright := List.length_pos_of_mem (List.mem_filter.2 ⟨ht, hsolid⟩)
    rw [bodyTokens_append hend, hcontent.outermost_append, List.filter_append, List.length_append]
    omega
  rw [isSingle]
  split
  · next hone =>
    rw [hone, List.length_singleton] at hcount
    omega
  · rfl

/-! ### Readers -/

theorem Visitor.Ignores.foldlM {α : Type} {v : Visitor α} {name : String} (h : v.Ignores name)
    {nodes : List Node} (hnodes : ∀ n ∈ nodes, n.name = name) (x : v.State) :
    nodes.foldlM v.visit x = .ok x := by
  induction nodes with
  | nil => rfl
  | cons n nodes ih =>
    have hvisit : v.visit x n = .ok x := by
      have hname := hnodes n List.mem_cons_self
      cases n with
      | opened _ =>
        cases hname
        exact (h x).1
      | closed _ text =>
        cases hname
        exact (h x).2 text
    rw [List.foldlM_cons, hvisit]
    exact ih fun n hn => hnodes n (List.mem_cons_of_mem _ hn)

/-- What a reader makes of what stands outside the first outermost element. -/
structure TakesContent {α : Type} (read : Bytes → Except Fault α) : Prop where
  /-- What is taken is content with an element in it. -/
  content : ∀ s a, read s = .ok a → ∃ nodes name, ContentOf s nodes name
  /-- Nothing but the nodes and the name of the first element counts, so text outside the
  outermost elements does not. -/
  determined : ∀ s s' nodes name, ContentOf s nodes name → ContentOf s' nodes name →
    read s = read s'
  /-- Behind a document any content is passed over whose elements the reader does not know, though
  the whole is no single element any more. -/
  behind : ∀ s rest a nodes text, read s = .ok a → EndsWithRoot s → (tokens rest).2 = none →
    Content (tokens rest).1 nodes text → (∀ n ∈ nodes, n.name = stranger) →
    read (s ++ rest) = .ok a ∧
      ∀ t ∈ outermost 0 (tokens rest).1, t.isSolid = true → isSingle (s ++ rest) = false

/-- **Readers take content.** -/
theorem IsReader.takesContent {α : Type} {read : Bytes → Except Fault α} (h : IsReader read) :
    TakesContent read := by
  obtain ⟨v, hv, hignores⟩ := h.exists_visitor
  have hcontent : ∀ s a, read s = .ok a → ∃ nodes name, ContentOf s nodes name := by
    intro s a hread
    rw [hv] at hread
    rcases hs : Document.ofBytes s with ⟨nodes, root⟩
    by_cases hroot : ∃ name, root = .ok (some name)
    · obtain ⟨name, rfl⟩ := hroot
      exact ⟨nodes, name, Document.ofBytes_eq_iff.1 hs⟩
    · obtain ⟨f, hf⟩ := v.exists_fault (d := Document.ofBytes s) fun name h =>
        hroot ⟨name, by rw [← h, hs]⟩
      rw [Visitor.read, hf] at hread
      cases hread
  have hread : ∀ {s nodes name}, ContentOf s nodes name →
      read s = v.readDocument ⟨nodes, .ok (some name)⟩ := by
    intro s nodes name h
    rw [hv, Visitor.read, Document.ofBytes_eq_iff.2 h]
  refine ⟨hcontent, fun s s' nodes name h h' => (hread h).trans (hread h').symm, ?_⟩
  intro s rest a more text hs hend hclosed hrest hmore
  obtain ⟨nodes, name, h⟩ := hcontent s a hs
  have happend : v.readDocument ⟨nodes ++ more, .ok (some name)⟩ =
      v.readDocument ⟨nodes, .ok (some name)⟩ := by
    rw [Visitor.readDocument, Document.visit, List.foldlM_append, Visitor.readDocument,
      Document.visit]
    rcases nodes.foldlM v.visit v.start with f | x
    · rfl
    · show (more.foldlM v.visit x >>= _) >>= _ = _
      rw [hignores.foldlM hmore]
  constructor
  · rw [hread (h.append hend hclosed hrest), happend, ← hread h, hs]
  · intro t ht hsolid
    exact h.isSingle_append hend ht hsolid

/-- Text and an element behind a page are passed over. -/
theorem takesContent_page_and_unknown :
    let page := utf8 "<ListBucketResult><Contents><Key>a</Key></Contents></ListBucketResult>"
    let rest := utf8 "text<Unknown>more</Unknown>"
    IsReader Listing.ObjectsPage.read ∧ TakesContent Listing.ObjectsPage.read ∧
      (Listing.ObjectsPage.read page).toOption.isSome = true ∧
      Listing.ObjectsPage.read (page ++ rest) = Listing.ObjectsPage.read page ∧
      isSingle page = true ∧ isSingle (page ++ rest) = false := by
  intro page rest
  have htakes := IsReader.objects.takesContent
  have hend : afterFirst? 0 (Document.withoutMark page) = some [] := by decide +kernel
  have htokens : tokens rest = ([.text (utf8 "text"), .start (utf8 "Unknown"), .text (utf8 "more"),
      .finish (utf8 "Unknown")], none) := by decide +kernel
  have htext : Reading.runText (utf8 "text") = .ok "text" := Document.runText_utf8_escape "text"
  have hmore : Reading.runText (utf8 "more") = .ok "more" := Document.runText_utf8_escape "more"
  have hname : nameText (localPart (utf8 "Unknown")) = stranger := by decide +kernel
  have hcontent : Content (tokens rest).1 [.opened stranger, .closed stranger "more"] "" := by
    rw [htokens, ← hname]
    exact (Content.nil.text htext).element (utf8 "Unknown") (Content.nil.text hmore)
  have hok : (Listing.ObjectsPage.read page).toOption.isSome = true := by decide +kernel
  rcases hread : Listing.ObjectsPage.read page with f | chunk
  · rw [hread] at hok
    cases hok
  · obtain ⟨hbehind, hsingle⟩ := htakes.behind page rest chunk _ _ hread hend (by rw [htokens])
      hcontent (by decide)
    have hfirst : .text (utf8 "text") ∈ outermost 0 (tokens rest).1 := by
      rw [htokens]
      exact List.mem_cons_self
    exact ⟨.objects, htakes, rfl, hbehind, by decide +kernel, hsingle _ hfirst rfl⟩

/-- An error behind an empty page, and text in front of it, are taken for the empty page. -/
theorem read_page_not_single :
    let page := utf8 "<ListBucketResult></ListBucketResult>"
    let failed := page ++ utf8 "<Error><Code>InternalError</Code></Error>"
    let text := utf8 "text" ++ page
    isSingle failed = false ∧ isSingle text = false ∧
      (Listing.ObjectsPage.read failed).toOption.map Listing.Chunk.items = some [] ∧
      (Listing.ObjectsPage.read text).toOption.map Listing.Chunk.items = some [] := by
  decide +kernel

end ObjectStore.Xml
