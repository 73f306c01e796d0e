import ObjectStore.Listing.Versions
import ObjectStore.Proofs.Lists
import ObjectStore.Proofs.Number
import ObjectStore.Proofs.Xml.Strangers
/-!
# What the items of a page show

Pages of versions, of uploads and of parts are made of the same kinds of items: entries, groups of
common prefixes, and what there is beyond the page.  A `PageView` says of each item what it shows,
and **a page shows what its items show**, the last one of a kind where only one counts
(`PageView.page`).

The readers of these pages are visitors that remember what has been shown and where they are.  What
they do alike is stated here once, of any visitor: in a person only the person is read
(`foldlM_personFields`), and a group of prefixes adds its prefixes (`foldlM_commonPrefixes`).
-/

namespace ObjectStore.Listing

open ObjectStore.Xml

/-! ### Single texts -/

theorem trimmed_quoted (tag : String) : trimmed ("\"" ++ tag ++ "\"") = "\"" ++ tag ++ "\"" := by
  have hchars : ("\"" ++ tag ++ "\"").toList = '"' :: (tag.toList ++ ['"']) := by simp
  rw [trimmed_eq_self_iff, hchars]
  constructor
  · rintro c ⟨⟩
    rfl
  · rw [← List.cons_append, List.getLast?_concat]
    rintro c ⟨⟩
    rfl

theorem unquoteTag_quoted (tag : String) : unquoteTag ("\"" ++ tag ++ "\"") = tag := by
  have hchars : ("\"" ++ tag ++ "\"").toList = '"' :: (tag.toList ++ ['"']) := by simp
  simp only [unquoteTag, hchars, List.getLast?_concat, if_true, List.dropLast_concat,
    String.ofList_toList]

theorem trimmed_toString_bool (b : Bool) : trimmed (toString b) = toString b := by
  cases b with
  | false => decide
  | true => decide

theorem toString_eq_true (b : Bool) : decide (toString b = "true") = b := by
  cases b with
  | false => rfl
  | true => rfl

/-! ### Persons -/

/-- An element of a person. -/
inductive PersonField where
  | id (text : String)
  | displayName (text : String)

namespace PersonField

def element : PersonField → Element
  | id text => .text "ID" text
  | displayName text => .text "DisplayName" text

def id? : PersonField → Option String
  | id text => some (trimmed text)
  | _ => none

def displayName? : PersonField → Option String
  | displayName text => some (trimmed text)
  | _ => none

end PersonField

/-- The person, but for what the fields say. -/
def Person.showing (p : Person) (fields : List PersonField) : Person :=
  { id := (lastOf PersonField.id? fields).getD p.id
    displayName := (lastOf PersonField.displayName? fields).or p.displayName }

theorem Person.showing_cons (p : Person) (field : PersonField) (fields : List PersonField) :
    (p.showing [field]).showing fields = p.showing (field :: fields) := by
  simp only [showing, lastOf_cons, lastOf_nil, Option.none_or, Option.getD_or, Option.or_assoc]

theorem Person.close_of_ne {name : String} (hid : name ≠ "ID") (hname : name ≠ "DisplayName")
    (p : Person) (text : String) : p.close name text = p := by
  unfold Person.close
  split
  · exact absurd rfl hid
  · exact absurd rfl hname
  · rfl

section

variable {σ : Type} (visit : σ → Node → Except Xml.Fault σ)

/-- In a person only the person is read. -/
theorem foldlM_personFields (inPerson : Person → σ)
    (hid : ∀ p text, [Node.opened "ID", .closed "ID" text].foldlM visit (inPerson p) =
      .ok (inPerson { p with id := text }))
    (hname : ∀ p text,
      [Node.opened "DisplayName", .closed "DisplayName" text].foldlM visit (inPerson p) =
        .ok (inPerson { p with displayName := some text }))
    (p : Person) (fields : List PersonField) :
    (Element.nodesAll (fields.map PersonField.element)).foldlM visit (inPerson p) =
      .ok (inPerson (p.showing fields)) := by
  refine Element.foldlM_map inPerson Person.showing (fun _ => rfl) Person.showing_cons
    (fun p field => ?_) p fields
  cases field with
  | id text => exact hid p (trimmed text)
  | displayName text => exact hname p (trimmed text)

/-! ### Common prefixes -/

/-- A group of common prefixes adds them to those outside, and then it is left. -/
theorem foldlM_commonPrefixes (outside inside : List String → σ)
    (hopened : ∀ l, visit (outside l) (.opened "CommonPrefixes") = .ok (inside l))
    (hlisted : ∀ l text, [Node.opened "Prefix", .closed "Prefix" text].foldlM visit (inside l) =
      .ok (inside (l ++ [text])))
    (hclosed : ∀ l, visit (inside l) (.closed "CommonPrefixes" "") = .ok (outside l))
    (before l : List String) :
    (Element.node "CommonPrefixes" (l.map (Element.text "Prefix"))).nodes.foldlM visit
      (outside before) = .ok (outside (before ++ l.map trimmed)) := by
  have hprefixes : (Element.nodesAll (l.map (Element.text "Prefix"))).foldlM visit
      (inside before) = .ok (inside (before ++ l.map trimmed)) :=
    Element.foldlM_collect inside trimmed (fun l text => hlisted l (trimmed text)) before l
  rw [Element.foldlM_node (hopened before) hprefixes, hclosed]

end

/-! ### Items -/

theorem Chunk.settle_withItems {α : Type} (c : Chunk α) (items : List α) :
    Chunk.settle { c with items } = { c.settle with items } := by
  unfold Chunk.settle
  split
  · rfl
  · rfl

/-- What each item of a page shows. -/
structure PageView (ι α : Type) where
  entry? : ι → Option α
  prefixes : ι → List String
  isTruncated? : ι → Option Bool
  primary? : ι → Option (Option String)
  secondary? : ι → Option (Option String)

namespace PageView

variable {ι α : Type} (view : PageView ι α)

def page (items : List ι) : Chunk α :=
  let truncated := (lastOf view.isTruncated? items).getD false
  { items := items.filterMap view.entry?
    commonPrefixes := items.flatMap view.prefixes
    truncated
    next :=
      if truncated then
        { primary := (lastOf view.primary? items).join
          secondary := (lastOf view.secondary? items).join }
      else {} }

/-- What has been shown, and then the items. -/
def shown (c : Chunk α) (items : List ι) : Chunk α :=
  { items := c.items ++ items.filterMap view.entry?
    commonPrefixes := c.commonPrefixes ++ items.flatMap view.prefixes
    truncated := (lastOf view.isTruncated? items).getD c.truncated
    next :=
      { primary := (lastOf view.primary? items).getD c.next.primary
        secondary := (lastOf view.secondary? items).getD c.next.secondary } }

variable {view}

theorem shown_nil (c : Chunk α) : view.shown c [] = c := by
  simp only [shown, lastOf_nil, List.filterMap_nil, List.flatMap_nil, List.append_nil,
    Option.getD_none]

theorem shown_cons (c : Chunk α) (item : ι) (items : List ι) :
    view.shown (view.shown c [item]) items = view.shown c (item :: items) := by
  have hentries : (item :: items).filterMap view.entry? =
      [item].filterMap view.entry? ++ items.filterMap view.entry? := by
    rw [← List.singleton_append, List.filterMap_append]
  simp only [shown, lastOf_cons, lastOf_nil, Option.none_or, Option.getD_or, hentries,
    List.append_assoc, List.flatMap_cons, List.flatMap_nil, List.append_nil]

/-- An item that is no group of prefixes. -/
theorem shown_of_prefixes_eq_nil {item : ι} (h : view.prefixes item = []) (c : Chunk α) :
    view.shown c [item] =
      { items := (view.entry? item).elim c.items fun a => c.items ++ [a]
        commonPrefixes := c.commonPrefixes
        truncated := (view.isTruncated? item).getD c.truncated
        next :=
          { primary := (view.primary? item).getD c.next.primary
            secondary := (view.secondary? item).getD c.next.secondary } } := by
  have hitems : c.items ++ [item].filterMap view.entry? =
      (view.entry? item).elim c.items fun a => c.items ++ [a] := by
    rw [List.filterMap_cons]
    cases view.entry? item with
    | none => exact List.append_nil c.items
    | some a => rfl
  simp only [shown, hitems, List.flatMap_singleton, h, List.append_nil, lastOf_singleton]

/-- An item that is no entry. -/
theorem shown_of_entry?_eq_none {item : ι} (h : view.entry? item = none) (c : Chunk α) :
    view.shown c [item] =
      { items := c.items
        commonPrefixes := c.commonPrefixes ++ view.prefixes item
        truncated := (view.isTruncated? item).getD c.truncated
        next :=
          { primary := (view.primary? item).getD c.next.primary
            secondary := (view.secondary? item).getD c.next.secondary } } := by
  simp only [shown, List.filterMap_cons_none h, List.filterMap_nil, List.append_nil,
    List.flatMap_singleton, lastOf_singleton]

theorem settle_shown (items : List ι) : (view.shown {} items).settle = view.page items := by
  have hmarker : ∀ marker : Option (Option String), marker.getD none = marker.join := by
    intro marker
    cases marker with
    | none => rfl
    | some _ => rfl
  simp only [shown, Chunk.settle, page, List.nil_append, hmarker]
  cases (lastOf view.isTruncated? items).getD false with
  | false => rfl
  | true => rfl

end PageView

end ObjectStore.Listing
