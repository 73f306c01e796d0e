import ObjectStore.Listing.Objects
import ObjectStore.Proofs.Xml.Layout
/-!
# The keys on a page of objects

A page that is laid out is read object by object, in document order.  A key comes out of it
without the blanks at its two ends, which the reader drops from every text, and unchanged
otherwise: whatever characters it has, it stays in its place
(`ObjectsPage.read_writtenPage`).
-/

namespace ObjectStore.Listing

open ObjectStore.Xml

/-- What can stand on a page: an object with its key among other elements, or something else. -/
inductive PageEntry where
  | object (before : List Element) (key : String) (after : List Element)
  | other (e : Element)

namespace PageEntry

def element : PageEntry → Element
  | object before key after => .node "Contents" (before ++ .text "Key" key :: after)
  | other e => e

def key? : PageEntry → Option String
  | object _ key _ => some key
  | other _ => none

end PageEntry

/-- The start or the end of an element that tells nothing about which objects there are.  It can
be a size, which is then a number. -/
def isBystander : Node → Bool
  | .opened name => name ≠ "Contents"
  | .closed name text =>
    name ≠ "Contents" && name ≠ "Key" &&
      (name ≠ "Size" || (readUInt64 "Size" text).toOption.isSome)

/-- Around the keys there are only bystanders. -/
def PageEntry.isPlain : PageEntry → Bool
  | object before _ after =>
    (Element.nodesAll before).all isBystander && (Element.nodesAll after).all isBystander
  | other e => e.nodes.all isBystander

def pageElement (entries : List PageEntry) : Element :=
  .node "ListBucketResult" (entries.map PageEntry.element)

def listedKeys (entries : List PageEntry) : List String := entries.filterMap PageEntry.key?

/-- A page as a server writes it. -/
structure WrittenPage where
  entries : List PageEntry
  body : Bytes
  written : Written (pageElement entries) body
  plain : ∀ entry ∈ entries, entry.isPlain = true

/-- The page as the program itself would write it, without blanks between tags. -/
def WrittenPage.render (entries : List PageEntry)
    (hnamed : (pageElement entries).isNamed = true)
    (hplain : ∀ entry ∈ entries, entry.isPlain = true) : WrittenPage where
  entries := entries
  body := utf8 (pageElement entries).render
  written := written_render hnamed
  plain := hplain

def WrittenPage.keys (page : WrittenPage) : List String := listedKeys page.entries

namespace ObjectsPage

def Progress.keys (p : Progress) : List String := p.chunk.items.map StoredObject.key

theorem Progress.update_keeps (p : Progress) {f : StoredObject → StoredObject}
    (hf : ∀ o, (f o).key = o.key) :
    (p.update f).keys = p.keys ∧
      (p.update f).current.map StoredObject.key = p.current.map StoredObject.key := by
  refine ⟨rfl, ?_⟩
  show (p.current.map f).map _ = _
  rw [Option.map_map]
  congr 1
  exact funext hf

theorem close_bystander {name text : String} (h : isBystander (.closed name text) = true)
    (p : Progress) :
    ∃ p', close p name text = .ok p' ∧ p'.keys = p.keys ∧
      p'.current.map StoredObject.key = p.current.map StoredObject.key := by
  unfold close
  split
  · cases h
  · rcases hcurrent : p.current with _ | o
    · refine ⟨p, rfl, rfl, ?_⟩
      rw [hcurrent]
    · rcases hsize : readUInt64 "Size" text with fault | size
      · simp [isBystander, hsize, Except.toOption] at h
      · exact ⟨_, rfl, rfl, rfl⟩
  · exact ⟨_, rfl, p.update_keeps fun _ => rfl⟩
  · exact ⟨_, rfl, p.update_keeps fun _ => rfl⟩
  · exact ⟨_, rfl, p.update_keeps fun _ => rfl⟩
  · cases h
  · split
    · exact ⟨_, rfl, rfl, rfl⟩
    · exact ⟨_, rfl, rfl, rfl⟩
  · exact ⟨_, rfl, rfl, rfl⟩
  · exact ⟨_, rfl, rfl, rfl⟩
  · exact ⟨_, rfl, rfl, rfl⟩
  · exact ⟨_, rfl, rfl, rfl⟩

/-- A bystander is read, and no key is lost, added or changed. -/
theorem visit_bystander {n : Node} (h : isBystander n = true) (p : Progress) :
    ∃ p', visit p n = .ok p' ∧ p'.keys = p.keys ∧
      p'.current.map StoredObject.key = p.current.map StoredObject.key := by
  cases n with
  | closed name text => exact close_bystander h p
  | opened name =>
    unfold visit
    split
    · next heq =>
      cases heq
      cases h
    · exact ⟨_, rfl, rfl, rfl⟩
    · exact ⟨_, rfl, rfl, rfl⟩
    · next heq => cases heq

theorem foldlM_bystanders {l : List Node} (h : l.all isBystander = true) (p : Progress) :
    ∃ p', l.foldlM visit p = .ok p' ∧ p'.keys = p.keys ∧
      p'.current.map StoredObject.key = p.current.map StoredObject.key := by
  induction l generalizing p with
  | nil => exact ⟨p, rfl, rfl, rfl⟩
  | cons n l ih =>
    rw [List.all_cons, Bool.and_eq_true] at h
    obtain ⟨p₁, hvisit, hkeys, hcurrent⟩ := visit_bystander h.1 p
    obtain ⟨p₂, hrest, hkeys', hcurrent'⟩ := ih h.2 p₁
    refine ⟨p₂, ?_, hkeys'.trans hkeys, hcurrent'.trans hcurrent⟩
    rw [List.foldlM_cons, hvisit]
    exact hrest

/-- An entry of the page is read: an object adds its key. -/
theorem foldlM_entry {entry : PageEntry} (h : entry.isPlain = true) (p : Progress) :
    ∃ p', entry.element.nodes.foldlM visit p = .ok p' ∧
      p'.keys = p.keys ++ (entry.key?.map trimmed).toList := by
  cases entry with
  | other e =>
    obtain ⟨p', hread, hkeys, _⟩ := foldlM_bystanders h p
    refine ⟨p', hread, ?_⟩
    rw [hkeys, PageEntry.key?, Option.map_none, Option.toList_none, List.append_nil]
  | object before key after =>
    rw [PageEntry.isPlain, Bool.and_eq_true] at h
    let opened : Progress := { p with current := some {} }
    obtain ⟨p₁, hbefore, hkeys₁, hcurrent₁⟩ := foldlM_bystanders h.1 opened
    -- the bystanders behind the key find the object with its key in it and leave it there
    let named : Progress := p₁.update fun o => { o with key := trimmed key }
    obtain ⟨p₂, hafter, hkeys₂, hcurrent₂⟩ := foldlM_bystanders h.2 named
    have hcurrent : p₂.current.map StoredObject.key = some (trimmed key) := by
      obtain ⟨o, ho, _⟩ := Option.map_eq_some_iff.1 hcurrent₁
      rw [hcurrent₂]
      simp only [named, Progress.update, ho, Option.map_some]
    refine ⟨{ p₂ with
      current := none
      chunk := { p₂.chunk with items := p₂.chunk.items ++ p₂.current.toList } }, ?_, ?_⟩
    · rw [PageEntry.element, Element.nodes, List.foldlM_cons]
      show List.foldlM visit opened _ = _
      rw [Element.nodesAll_append, List.foldlM_append, List.foldlM_append, hbefore]
      show (List.foldlM visit named (Element.nodesAll after) >>= fun q =>
        List.foldlM visit q [.closed "Contents" ""]) = _
      rw [hafter]
      rfl
    · obtain ⟨o, ho, hkey⟩ := Option.map_eq_some_iff.1 hcurrent
      show (p₂.chunk.items ++ p₂.current.toList).map StoredObject.key = _
      rw [ho, List.map_append]
      show p₂.keys ++ [o.key] = p.keys ++ [trimmed key]
      rw [hkey, hkeys₂]
      show p₁.keys ++ _ = _
      rw [hkeys₁]
      rfl

theorem foldlM_entries {entries : List PageEntry} (h : ∀ entry ∈ entries, entry.isPlain = true)
    (p : Progress) :
    ∃ p', (Element.nodesAll (entries.map PageEntry.element)).foldlM visit p = .ok p' ∧
      p'.keys = p.keys ++ (listedKeys entries).map trimmed := by
  induction entries generalizing p with
  | nil => exact ⟨p, rfl, (List.append_nil _).symm⟩
  | cons entry entries ih =>
    rw [List.forall_mem_cons] at h
    obtain ⟨p₁, hentry, hkeys₁⟩ := foldlM_entry h.1 p
    obtain ⟨p₂, hrest, hkeys₂⟩ := ih h.2 p₁
    refine ⟨p₂, ?_, ?_⟩
    · rw [List.map_cons, Element.nodesAll, List.foldlM_append, hentry]
      exact hrest
    · rw [hkeys₂, hkeys₁, List.append_assoc, listedKeys, listedKeys, List.filterMap_cons]
      cases entry.key? with
      | none => rfl
      | some key => rfl

/-- **The keys of a page are read in order, each without the blanks at its ends.** -/
theorem read_writtenPage (page : WrittenPage) :
    ∃ chunk, read page.body = .ok chunk ∧
      chunk.items.map StoredObject.key = page.keys.map trimmed := by
  obtain ⟨p, hentries, hkeys⟩ := foldlM_entries page.plain {}
  have hnodes : (pageElement page.entries).nodes.foldlM visit {} = .ok p := by
    rw [pageElement, Element.nodes, List.foldlM_cons]
    show List.foldlM visit {} _ = _
    rw [List.foldlM_append, hentries]
    rfl
  have hread : readDocument "ListBucketResult" visit {} page.body = .ok p :=
    (readDocument_of_written page.written visit {}).trans hnodes
  refine ⟨p.chunk.settle, by rw [read, hread]; rfl, ?_⟩
  have hsettle : p.chunk.settle.items = p.chunk.items := by
    unfold Chunk.settle
    split
    · rfl
    · rfl
  rw [hsettle]
  exact hkeys

/-- A blank in front of a key is lost. -/
theorem read_loses_blank :
    ∃ page : WrittenPage, page.keys = [" a"] ∧
      page.body = utf8 "<ListBucketResult><Contents><Key> a</Key></Contents></ListBucketResult>" ∧
      ∃ chunk, read page.body = .ok chunk ∧ chunk.items.map StoredObject.key = ["a"] := by
  let page : WrittenPage := .render [.object [] " a" []] (by decide) (by decide)
  obtain ⟨chunk, hread, hkeys⟩ := read_writtenPage page
  refine ⟨page, rfl, ?_, chunk, hread, hkeys⟩
  decide +kernel

end ObjectsPage

end ObjectStore.Listing
