import ObjectStore.Proofs.Listing.PartEntries
import ObjectStore.Proofs.Upload.EntityTags
import ObjectStore.Proofs.Upload.Manifest
/-!
# The way of an entity tag

A part has its tag from the header of an upload, from the document of a copy or from a page of
parts, and a manifest gives the tag back.  On the first way all quotes at the ends are taken off,
on the other two one pair of them, and the manifest takes off what is left and puts a pair around.
For a tag without quotes in it these come to the same.

**A tag survives** (`survives_of_isEntityTag`): on each of the ways the part has the tag without
the quotes around it, and any manifest with the part has the tag with them.
-/

namespace ObjectStore

open Listing Xml

/-- Printable characters, and no quotes among them. -/
def IsEntityTag (tag : String) : Prop :=
  ∀ c ∈ tag.toList, 32 ≤ c.toNat ∧ c.toNat ≤ 126 ∧ c ≠ '"'

instance (tag : String) : Decidable (IsEntityTag tag) :=
  List.decidableBAll (fun c : Char => 32 ≤ c.toNat ∧ c.toNat ≤ 126 ∧ c ≠ '"') tag.toList

variable {tag : String}

/-! ### Quotes around a tag -/

theorem toList_quotedTag (tag : String) :
    (quotedTag tag).toList = '"' :: (tag.toList ++ ['"']) := by
  simp [quotedTag]

theorem IsEntityTag.not_quote (h : IsEntityTag tag) :
    ∀ c ∈ tag.toList, decide (c = '"') = false :=
  fun c hc => decide_eq_false (h c hc).2.2

theorem trimQuotes_of_isEntityTag (h : IsEntityTag tag) : trimQuotes tag = tag := by
  have htrim : Text.trimBoth (· = '"') tag.toList = tag.toList :=
    Text.trimBoth_eq_self_iff.2 ⟨fun c hc => h.not_quote c (List.mem_of_head? hc),
      fun c hc => h.not_quote c (List.mem_of_getLast? hc)⟩
  rw [trimQuotes, htrim, String.ofList_toList]

theorem trimQuotes_quotedTag (h : IsEntityTag tag) : trimQuotes (quotedTag tag) = tag := by
  have hquote : Text.trimEnd (fun c : Char => decide (c = '"')) ['"'] = [] := rfl
  have hdrop : (quotedTag tag).toList.dropWhile (fun c => decide (c = '"')) =
      (tag.toList ++ ['"']).dropWhile (fun c => decide (c = '"')) := by
    rw [toList_quotedTag]
    rfl
  have hbare := trimQuotes_of_isEntityTag h
  rw [trimQuotes, Text.trimBoth] at hbare ⊢
  rw [hdrop]
  -- behind the first quote the tag begins, and it begins with none
  rcases hlist : tag.toList with _ | ⟨c, rest⟩
  · rw [← String.toList_inj, hlist]
    rfl
  · have hc : decide (c = '"') = false := h.not_quote c (by simp [hlist])
    rw [hlist, List.dropWhile_cons_of_neg (by simp [hc])] at hbare
    rw [List.cons_append, List.dropWhile_cons_of_neg (by simp [hc]), ← List.cons_append,
      Text.trimEnd_append, if_pos hquote, hbare]

theorem isReadable_quotedTag (h : IsEntityTag tag) : Http.isReadable (quotedTag tag) = true := by
  rw [Http.isReadable, toList_quotedTag, List.all_eq_true]
  intro c hc
  rcases List.mem_cons.1 hc with rfl | hc
  · rfl
  rcases List.mem_append.1 hc with hc | hc
  · obtain ⟨hlow, hhigh, _⟩ := h c hc
    simp [hlow, hhigh]
  · rw [List.mem_singleton.1 hc]
    rfl

/-! ### What a manifest gives back -/

/-- The texts of the elements of a name in the manifest, as they are read back. -/
def manifestTexts (name : String) (parts : List Part) : List String :=
  (Document.ofBytes (utf8 (manifest parts))).nodes.filterMap (Node.textOf? name)

theorem manifestTexts_eq {name : String} {text : Part → String} (parts : List Part)
    (hroot : "CompleteMultipartUpload" ≠ name)
    (hpart : ∀ p : Part, p.nodes.filterMap (Node.textOf? name) = [text p]) :
    manifestTexts name parts = parts.map text := by
  have hfirst : Node.textOf? name (.opened "CompleteMultipartUpload") = none := rfl
  have hlast : Node.textOf? name (.closed "CompleteMultipartUpload" "") = none := if_neg hroot
  rw [manifestTexts, ofBytes_manifest, List.filterMap_cons_none hfirst, List.filterMap_append,
    List.filterMap_cons_none hlast, List.filterMap_nil, List.append_nil]
  induction parts with
  | nil => rfl
  | cons p parts ih =>
    rw [List.flatMap_cons, List.filterMap_append, hpart, ih]
    rfl

/-- The part has the tag, and wherever it stands in a manifest its tag is read there with quotes
around it. -/
structure Carries (tag : String) (part : Part) : Prop where
  etag : part.etag = tag
  named : ∀ {parts : List Part} {i : Nat}, parts[i]? = some part →
    (Document.ofBytes (utf8 (manifest parts))).root = .ok (some "CompleteMultipartUpload") ∧
      (manifestTexts "PartNumber" parts)[i]? = some (toString part.number.toNat) ∧
      (manifestTexts "ETag" parts)[i]? = some (quotedTag tag)

theorem carries_of_etag (h : IsEntityTag tag) {part : Part} (hetag : part.etag = tag) :
    Carries tag part := by
  refine ⟨hetag, fun {parts i} hi => ⟨?_, ?_, ?_⟩⟩
  · rw [ofBytes_manifest]
  · rw [manifestTexts_eq parts (by decide) (fun _ => rfl), List.getElem?_map, hi]
    rfl
  · rw [manifestTexts_eq parts (by decide) (fun _ => rfl), List.getElem?_map, hi, Option.map_some,
      hetag, trimQuotes_of_isEntityTag h]
    rfl

/-! ### The ways to a part -/

theorem lastText?_heeded {known : List String} {name : String} (h : name ∈ known)
    (nodes : List Node) : lastText? name (heeded known nodes) = lastText? name nodes := by
  rw [lastText?, lastText?, lastOf, lastOf, heeded, List.filterMap_filter]
  congr 2
  funext n
  cases n with
  | opened other => simp [Node.textOf?]
  | closed other text =>
    by_cases hother : other = name
    · subst hother
      simp [Node.name, h]
    · simp [Node.textOf?, hother]

namespace PartSupply

variable {r : Http.Response}

/-- The response gives the tag of a part. -/
inductive Gives (tag : String) (r : Http.Response) : PartSupply → Prop
  | header {source : PartSource} (hstatus : r.status = 200)
      (hbody : ∃ content, r.body.collect = .ok content)
      (htag : r.headers.lookup "etag" = some (quotedTag tag)) : Gives tag r (.upload source)
  | document {source : PartCopySource} {content : Bytes} {plain : Bool} (hstatus : r.status = 200)
      (hbody : r.body.collect = .ok content)
      (htag : StrewnDocument ["ETag"] "CopyPartResult" [tagElement tag plain] content) :
      Gives tag r (.copy source)

theorem assigned?_of_gives (h : IsEntityTag tag) {s : PartSupply} (hgives : Gives tag r s) :
    s.Confirms r ∧ s.assigned? r = some tag := by
  cases hgives with
  | header hstatus hbody htag =>
    have hheader : r.header? "etag" = some (quotedTag tag) := by
      rw [Http.Response.header?, htag, Option.filter_some, if_pos (isReadable_quotedTag h)]
    refine ⟨⟨hstatus, hbody⟩, ?_⟩
    rw [assigned?, tag?, hheader, Option.map_some, trimQuotes_quotedTag h]
  | @document source content _ hstatus hbody htag =>
    obtain ⟨nodes, hdocument, hnodes⟩ := Document.exists_ofBytes_of_strewn htag
    have hknown : "ETag" ∈ ["ETag"] := List.mem_cons_self
    have hlast : lastText? "ETag" nodes = some (quotedTag tag) := by
      rw [← lastText?_heeded hknown, hnodes, lastText?_heeded hknown, Element.nodes,
        Element.nodesAll, Element.nodesAll, nodes_tagElement]
      rfl
    refine ⟨⟨hstatus, content, nodes, hbody, hdocument⟩, ?_⟩
    have htag? : tag? r (.copy source) = some (quotedTag tag) := by
      rw [tag?, hbody]
      show lastText? "ETag" (Document.ofBytes content).nodes = _
      rw [hdocument, hlast]
    rw [assigned?, htag?, Option.map_some, quotedTag, unquoteTag_quoted, Option.getD_some]

end PartSupply

/-- A tag survives on every way. -/
structure Survives (tag : String) : Prop where
  supplied : ∀ {c : Client} {u : Upload} {number : UInt32} {s : PartSupply} {q : Http.Request}
    {next : Except Fault Http.Response → Dialogue Http.Request (Except Fault Http.Response)
      (Except Fault Part)} {r : Http.Response},
    (s.operation c u number).run = .ask q next → s.Gives tag r →
      ∃ part, next (.ok r) = .done (.ok part) ∧ part.number = number ∧ Carries tag part
  listed : ∀ {items : List PartsItem} {fields : List PartField} {body : Bytes},
    StrewnDocument PartsPage.known "ListPartsResult" (items.map PartsItem.element) body →
      .part fields ∈ items → lastOf PartField.etag? fields = some tag →
      ∃ chunk, PartsPage.read body = .ok chunk ∧ chunk.items = items.filterMap PartsItem.part? ∧
        ({} : Part).showing fields ∈ chunk.items ∧ Carries tag (({} : Part).showing fields)

/-- **A tag survives.** -/
theorem survives_of_isEntityTag (h : IsEntityTag tag) : Survives tag := by
  constructor
  · intro c u number s q next r hsent hgives
    obtain ⟨hconfirms, hassigned⟩ := PartSupply.assigned?_of_gives h hgives
    obtain ⟨result, hnext, hsupplied⟩ := PartSupply.supplied_of_sent hsent r
    cases hsupplied with
    | failed hnot => exact absurd hconfirms hnot
    | unassigned _ hnone => cases hassigned.symm.trans hnone
    | made _ hnumber hetag =>
      exact ⟨_, hnext, hnumber, carries_of_etag h (Option.some.inj (hetag.symm.trans hassigned))⟩
  · intro items fields body hbody hpart htag
    refine ⟨_, PartsPage.read_of_strewn hbody, rfl, ?_, carries_of_etag h ?_⟩
    · exact List.mem_filterMap.2 ⟨_, hpart, rfl⟩
    · rw [Part.showing, htag, Option.getD_some]

/-- A tag with markup in it and with blanks at its ends. -/
def markupTag : String := " a&<b'> "

/-- The answer to a copy, with the quotes around the tag as references. -/
def markupCopy : String :=
  "<CopyPartResult><ETag>&quot; a&amp;&lt;b&apos;&gt; &quot;</ETag></CopyPartResult>"

/-- A page with the quotes around the tag as they are. -/
def markupPage : String :=
  "<ListPartsResult><IsTruncated>false</IsTruncated><Part>" ++
  "<ETag>\" a&amp;&lt;b&apos;&gt; \"</ETag><PartNumber>7</PartNumber></Part></ListPartsResult>"

theorem survives_markupTag :
    (∃ q next part,
      (PartSupply.operation (.ofConfig {} ⟨2024, 3, 5, 7, 8, 9, 2⟩)
          { uploadId := "u", bucket := "b", key := "k" } 1
          (.upload { body := .bytes [120] })).run = .ask q next ∧
        next (.ok { status := 200, headers := [("etag", "\" a&<b'> \"")],
                    body := { pieces := [] } }) = .done (.ok part) ∧ Carries markupTag part) ∧
      (∃ q next part,
        (PartSupply.operation (.ofConfig {} ⟨2024, 3, 5, 7, 8, 9, 2⟩)
            { uploadId := "u", bucket := "b", key := "k" } 1
            (.copy { bucket := "s", key := "t" })).run = .ask q next ∧
          next (.ok { status := 200, headers := [], body := { pieces := [utf8 markupCopy] } }) =
            .done (.ok part) ∧ Carries markupTag part) ∧
      ∃ chunk part, PartsPage.read (utf8 markupPage) = .ok chunk ∧ part ∈ chunk.items ∧
        part.number = 7 ∧ Carries markupTag part := by
  have hsurvives : Survives markupTag := survives_of_isEntityTag (by decide)
  refine ⟨?_, ?_, ?_⟩
  · have hsent : (PartSupply.operation (.ofConfig {} ⟨2024, 3, 5, 7, 8, 9, 2⟩)
        { uploadId := "u", bucket := "b", key := "k" } 1
        (.upload { body := .bytes [120] })).run = .ask _ _ := Client.run_uploadPart rfl rfl
    have hgives : PartSupply.Gives markupTag
        { status := 200, headers := [("etag", "\" a&<b'> \"")], body := { pieces := [] } }
        (.upload { body := .bytes [120] }) := .header rfl ⟨[], rfl⟩ (by decide)
    obtain ⟨part, hnext, _, hcarries⟩ := hsurvives.supplied hsent hgives
    exact ⟨_, _, part, hsent, hnext, hcarries⟩
  · have hsent : (PartSupply.operation (.ofConfig {} ⟨2024, 3, 5, 7, 8, 9, 2⟩)
        { uploadId := "u", bucket := "b", key := "k" } 1
        (.copy { bucket := "s", key := "t" })).run = .ask _ _ := Client.run_copyPart rfl rfl
    have hcopy : StrewnDocument ["ETag"] "CopyPartResult" [tagElement markupTag false] _ :=
      .intro (.blank allBlank_nil)
        (.text allBlank_nil (tagged_of_isName (by decide) _) (.done allBlank_nil))
        (tagged_of_isName (by decide) _) allBlank_nil
    have hbody := Eq.mp (congrArg (StrewnDocument ["ETag"] "CopyPartResult" _)
      (by decide +kernel : _ = [utf8 markupCopy].flatten)) hcopy
    have hgives : PartSupply.Gives markupTag
        { status := 200, headers := [], body := { pieces := [utf8 markupCopy] } }
        (.copy { bucket := "s", key := "t" }) := .document rfl rfl hbody
    obtain ⟨part, hnext, _, hcarries⟩ := hsurvives.supplied hsent hgives
    exact ⟨_, _, part, hsent, hnext, hcarries⟩
  · let items : List PartsItem := [.isTruncated false, .part [.etag markupTag true, .number 7]]
    have hpart : Strewn PartsPage.known
        ([.etag markupTag true, .number 7].map PartField.element) _ :=
      .quoted allBlank_nil (tagged_of_isName (by decide) _)
        (.text allBlank_nil (tagged_of_isName (by decide) _) (.done allBlank_nil))
    have hpage : StrewnDocument PartsPage.known "ListPartsResult"
        (items.map PartsItem.element) _ :=
      .intro (.blank allBlank_nil)
        (.text allBlank_nil (tagged_of_isName (by decide) _)
          (.node allBlank_nil hpart (tagged_of_isName (by decide) _) (.done allBlank_nil)))
        (tagged_of_isName (by decide) _) allBlank_nil
    have hbody := Eq.mp (congrArg (StrewnDocument PartsPage.known "ListPartsResult" _)
      (by decide +kernel : _ = utf8 markupPage)) hpage
    obtain ⟨chunk, hread, _, hmem, hcarries⟩ := hsurvives.listed hbody
      (List.mem_cons_of_mem _ List.mem_cons_self) rfl
    exact ⟨chunk, _, hread, hmem, rfl, hcarries⟩

end ObjectStore
