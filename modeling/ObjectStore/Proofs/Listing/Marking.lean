import ObjectStore.Proofs.Listing.Complete
import ObjectStore.Proofs.Xml.Visitor
/-!
# The markers of a page

An element of a page names a marker or leaves the markers alone.  A marker that is named empty
counts for none, and a second one is named only on pages of a kind that has one.  That is
`Kind.MarkStep`, shown of each node that each of the four readers visits.

Behind the last node the markers of a page that is not truncated are dropped, so **whatever the
body says, a page that was read `IsPage`**: its markers are none of them empty, its kind can send
them, and there are none where there is nothing more.
-/

namespace ObjectStore

namespace Listing

open Xml (exists_of_bind_eq_ok)

variable {α : Type} {k : Kind} {m m' : Markers}

/-! ### One element -/

inductive Kind.MarkStep (k : Kind) (m : Markers) : Markers → Prop
  | kept : k.MarkStep m m
  | primary (text : String) : k.MarkStep m { m with primary := Xml.nonEmpty text }
  | secondary (text : String) (hname : k.secondaryName ≠ none) :
    k.MarkStep m { m with secondary := Xml.nonEmpty text }

theorem Kind.MarkStep.of_eq (h : m' = m) : k.MarkStep m m' := by
  rw [h]
  exact .kept

/-- The markers that pages of a kind can name. -/
structure Kind.Marked (k : Kind) (m : Markers) : Prop where
  carries : k.Carries m
  primary : m.primary ≠ some ""
  secondary : m.secondary ≠ some ""

theorem Kind.marked_empty (k : Kind) : k.Marked {} where
  carries := fun _ => rfl
  primary := fun h => nomatch h
  secondary := fun h => nomatch h

theorem nonEmpty_ne_some_empty (text : String) : Xml.nonEmpty text ≠ some "" := by
  intro h
  unfold Xml.nonEmpty at h
  split at h
  · cases h
  · next hempty =>
    cases h
    exact hempty rfl

theorem Kind.Marked.step (h : k.Marked m) (hstep : k.MarkStep m m') : k.Marked m' := by
  cases hstep with
  | kept => exact h
  | primary text =>
    constructor
    · exact h.carries
    · exact nonEmpty_ne_some_empty text
    · exact h.secondary
  | secondary text hname =>
    constructor
    · intro hnone
      exact absurd hnone hname
    · exact h.primary
    · exact nonEmpty_ne_some_empty text

/-! ### Whole pages -/

structure Chunk.IsPage (k : Kind) (page : Chunk α) : Prop where
  marked : k.Marked page.next
  bare : page.truncated = false → page.next = {}

theorem Chunk.isPage_settle {page : Chunk α} (h : k.Marked page.next) : page.settle.IsPage k := by
  unfold settle
  split
  · next htruncated =>
    constructor
    · exact h
    · intro hfalse
      rw [htruncated] at hfalse
      cases hfalse
  · constructor
    · exact k.marked_empty
    · intro _
      rfl

/-- What every node does to the markers makes a page of the whole. -/
theorem isPage_of_readDocument {σ : Type} {visit : σ → Xml.Node → Except Xml.Fault σ}
    (chunk : σ → Chunk α)
    (hvisit : ∀ x node x', visit x node = .ok x' → k.MarkStep (chunk x).next (chunk x').next)
    {expected : String} {start : σ} (hstart : (chunk start).next = {}) {s : Bytes} {page : Chunk α}
    (h : (Xml.readDocument expected visit start s >>= fun x => pure (chunk x).settle) = .ok page) :
    page.IsPage k := by
  obtain ⟨x, hx, hpage⟩ := exists_of_bind_eq_ok h
  cases hpage
  apply Chunk.isPage_settle
  refine Xml.readDocument_keeps (P := fun x => k.Marked (chunk x).next) ?_ ?_ hx
  · intro x node x' hnode hmarked
    exact hmarked.step (hvisit x node x' hnode)
  · show k.Marked (chunk start).next
    rw [hstart]
    exact k.marked_empty

namespace ObjectsPage

theorem markStep_close {p p' : Progress} {name text : String} (h : close p name text = .ok p') :
    Kind.objects.MarkStep p.chunk.next p'.chunk.next := by
  unfold close at h
  split at h
  -- a size is taken in inside an object, and a prefix inside common prefixes
  case h_2 =>
    split at h
    · cases h
      exact .kept
    · obtain ⟨size, _, h⟩ := exists_of_bind_eq_ok h
      cases h
      exact .kept
  case h_7 =>
    split at h
    · cases h
      exact .kept
    · cases h
      exact .kept
  case h_10 =>
    cases h
    exact .primary text
  all_goals
    cases h
    exact .kept

theorem markStep_visit {p p' : Progress} {node : Xml.Node} (h : visit p node = .ok p') :
    Kind.objects.MarkStep p.chunk.next p'.chunk.next := by
  unfold visit at h
  split at h
  · cases h
    exact .kept
  · cases h
    exact .kept
  · cases h
    exact .kept
  · exact markStep_close h

theorem isPage_read {s : Bytes} {page : Chunk StoredObject} (h : read s = .ok page) :
    page.IsPage .objects :=
  isPage_of_readDocument Progress.chunk (fun _ _ _ => markStep_visit) rfl h

end ObjectsPage

namespace VersionsPage

theorem chunk_closeInOwner (p : Progress) (person : Person) (name text : String) :
    (closeInOwner p person name text).chunk = p.chunk := by
  unfold closeInOwner
  split
  · rfl
  · rfl

theorem next_closeInEntry {p p' : Progress} {v : ObjectVersion} {name text : String}
    (h : closeInEntry p v name text = .ok p') : p'.chunk.next = p.chunk.next := by
  unfold closeInEntry at h
  dsimp only at h
  split at h
  -- a size is read before anything is kept
  case h_6 =>
    obtain ⟨size, _, h⟩ := exists_of_bind_eq_ok h
    cases h
    rfl
  all_goals
    cases h
    rfl

theorem markStep_closeInPage (p : Progress) (name text : String) :
    Kind.versions.MarkStep p.chunk.next (closeInPage p name text).chunk.next := by
  unfold closeInPage
  split
  · split
    · exact .kept
    · exact .kept
  · exact .kept
  · exact .kept
  · exact .primary text
  · exact .secondary text (by decide)
  · exact .kept

theorem markStep_visit {p p' : Progress} {node : Xml.Node} (h : visit p node = .ok p') :
    Kind.versions.MarkStep p.chunk.next p'.chunk.next := by
  unfold visit at h
  split at h
  case h_6 =>
    split at h
    · cases h
      rw [chunk_closeInOwner]
      exact .kept
    · exact .of_eq (next_closeInEntry h)
    · cases h
      exact markStep_closeInPage p _ _
  all_goals
    cases h
    exact .kept

theorem isPage_read {s : Bytes} {page : Chunk ObjectVersion} (h : read s = .ok page) :
    page.IsPage .versions :=
  isPage_of_readDocument Progress.chunk (fun _ _ _ => markStep_visit) rfl h

end VersionsPage

namespace UploadsPage

theorem chunk_openPerson (p : Progress) (role : Role) : (openPerson p role).chunk = p.chunk := by
  unfold openPerson
  split
  · rfl
  · rfl

theorem chunk_closeInPerson (p : Progress) (role : Role) (person : Person) (name text : String) :
    (closeInPerson p role person name text).chunk = p.chunk := by
  unfold closeInPerson
  split
  · rfl
  · rfl

theorem next_closeInUpload (p : Progress) (u : Upload) (name text : String) :
    (closeInUpload p u name text).chunk.next = p.chunk.next := by
  unfold closeInUpload
  split
  all_goals rfl

theorem markStep_closeInPage (p : Progress) (name text : String) :
    Kind.uploads.MarkStep p.chunk.next (closeInPage p name text).chunk.next := by
  unfold closeInPage
  split
  · exact .kept
  · split
    · exact .kept
    · exact .kept
  · exact .kept
  · exact .kept
  · exact .primary text
  · exact .secondary text (by decide)
  · exact .kept

theorem markStep_visit {p p' : Progress} {node : Xml.Node} (h : visit p node = .ok p') :
    Kind.uploads.MarkStep p.chunk.next p'.chunk.next := by
  unfold visit at h
  split at h
  case h_6 =>
    split at h
    · cases h
      rw [chunk_closeInPerson]
      exact .kept
    · cases h
      exact .of_eq (next_closeInUpload p _ _ _)
    · cases h
      exact markStep_closeInPage p _ _
  case h_2 | h_3 =>
    cases h
    rw [chunk_openPerson]
    exact .kept
  all_goals
    cases h
    exact .kept

theorem isPage_read {s : Bytes} {page : Chunk Upload} (h : read s = .ok page) :
    page.IsPage .uploads :=
  isPage_of_readDocument
    (fun p : Progress =>
      ({ p.chunk with items := p.chunk.items.map fun u => { u with bucket := p.bucket } } :
        Chunk Upload))
    (fun _ _ _ => markStep_visit) rfl h

end UploadsPage

namespace PartsPage

theorem next_closeInPart {p p' : Progress} {part : Part} {name text : String}
    (h : closeInPart p part name text = .ok p') : p'.chunk.next = p.chunk.next := by
  unfold closeInPart at h
  split at h
  -- a number and a size are read before anything is kept
  case h_1 | h_3 =>
    obtain ⟨n, _, h⟩ := exists_of_bind_eq_ok h
    cases h
    rfl
  all_goals
    cases h
    rfl

theorem markStep_closeInPage (p : Progress) (name text : String) :
    Kind.parts.MarkStep p.chunk.next (closeInPage p name text).chunk.next := by
  unfold closeInPage
  split
  · exact .kept
  · exact .primary text
  · exact .kept

theorem markStep_visit {p p' : Progress} {node : Xml.Node} (h : visit p node = .ok p') :
    Kind.parts.MarkStep p.chunk.next p'.chunk.next := by
  unfold visit at h
  split at h
  · cases h
    exact .kept
  · cases h
    exact .kept
  · split at h
    · exact .of_eq (next_closeInPart h)
    · cases h
      exact markStep_closeInPage p _ _

theorem isPage_read {s : Bytes} {page : Chunk Part} (h : read s = .ok page) :
    page.IsPage .parts :=
  isPage_of_readDocument Progress.chunk (fun _ _ _ => markStep_visit) rfl h

end PartsPage

end Listing

end ObjectStore
