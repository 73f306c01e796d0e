import ObjectStore.Proofs.Listing.Attempts
/-!
# Chunks that can be followed

A caller who takes a listing chunk by chunk asks for more as long as chunks are truncated, each
time from the markers of the last one.  A truncated chunk without a marker would send that caller
back to the beginning, and an empty marker is as good as none.

A page never names an empty marker, nor any marker where there is nothing more, and the pager
turns down a truncated page that names none.  Together these make **every chunk that is returned
followable** (`Client.followable_of_lists`), whatever the bodies of the responses are.  All pages
put together are never truncated and lead nowhere.
-/

namespace ObjectStore

namespace Listing

variable {α : Type} {plan : Plan} {p : Pager α}

structure Chunk.Followable (mode : Mode) (chunk : Chunk α) : Prop where
  marked_iff : (chunk.next.primary.isSome ∨ chunk.next.secondary.isSome) ↔ chunk.truncated = true
  primary : chunk.next.primary ≠ some ""
  secondary : chunk.next.secondary ≠ some ""
  whole : mode = .merge → chunk.truncated = false ∧ chunk.next = {}

theorem Markers.eq_empty_iff (m : Markers) :
    m = {} ↔ ¬(m.primary.isSome ∨ m.secondary.isSome) := by
  obtain ⟨primary, secondary⟩ := m
  cases primary with
  | none =>
    cases secondary with
    | none => simp
    | some _ => simp
  | some _ => simp

/-- Pages put together, of which the last was not truncated. -/
theorem Chunk.followable_merged (items : List α) (commonPrefixes : List String) :
    ({ items, commonPrefixes } : Chunk α).Followable .merge where
  marked_iff := by simp
  primary := by simp
  secondary := by simp
  whole := fun _ => ⟨rfl, rfl⟩

theorem Chunk.IsPage.followable {k : Kind} {page : Chunk α} (h : page.IsPage k)
    (hmarked : page.truncated = true → page.next ≠ {}) : page.Followable .chunk where
  marked_iff := by
    rw [← not_iff_not, ← Markers.eq_empty_iff, Bool.not_eq_true]
    constructor
    · intro hempty
      by_contra htruncated
      exact hmarked (Bool.of_not_eq_false htruncated) hempty
    · exact h.bare
  primary := h.marked.primary
  secondary := h.marked.secondary
  whole := fun h => nomatch h

/-- What one answer can end a listing with. -/
theorem Plan.followable_of_finish {r result : Except Fault (Chunk α)}
    (h : plan.receive p r = .finish result) {k : Kind}
    (hpage : ∀ page, r = .ok page → page.IsPage k) :
    ∀ chunk, result = .ok chunk → chunk.Followable plan.mode := by
  intro chunk hchunk
  subst hchunk
  cases r with
  | error f =>
    rw [receive_error] at h
    split at h
    · cases h
    · cases h
  | ok page =>
    rw [receive, receivePage] at h
    split at h
    · cases h
    · next hviolation =>
      split at h
      · next hmode =>
        cases h
        rw [hmode]
        apply (hpage _ rfl).followable
        intro htruncated
        exact (violation?_eq_none_iff.1 hviolation htruncated).1
      · next hmode =>
        split at h
        · cases h
        · cases h
          rw [hmode]
          exact Chunk.followable_merged _ _

end Listing

namespace Client

open Listing

variable {α : Type} {c : Client} {plan : Plan}

/-- A page that is fetched was read, whatever the exchange came to. -/
theorem isPage_fetch {k : Kind} {read : Bytes → Except Xml.Fault (Chunk α)}
    (hread : ∀ s page, read s = .ok page → page.IsPage k) (d : Descriptor) (shape : Shape) :
    (c.fetch d shape read).run.Within (fun _ => True)
      (fun r => ∀ page, r = .ok page → page.IsPage k) 1 := by
  rw [run_fetch]
  apply Dialogue.Within.ask
  intro answer _
  apply Dialogue.Within.done
  intro page hpage
  obtain ⟨s, hs⟩ := exists_read_of_attempt hpage
  exact hread s page hs

/-- **Every chunk that a listing returns can be followed.** -/
theorem followable_of_lists {op : Operation (Chunk α)} (h : c.Lists plan op)
    {answers : List (Except Fault Http.Response)} {chunk : Chunk α}
    (hchunk : (op.run.replay answers).2.2 = some (.ok chunk)) : chunk.Followable plan.mode := by
  cases h.paged with
  | refused _ hrun =>
    rw [hrun] at hchunk
    cases hchunk
  | @pages kind context base start mode shape read _ hread =>
    have hwithin : (c.list kind context base start mode shape read).run.Within (fun _ => True)
        (fun result => ∀ chunk, result = .ok chunk → chunk.Followable mode) c.pageBudget := by
      apply within_answerPages
      · intro query
        exact isPage_fetch hread _ shape
      · apply Plan.within_dialogue
        intro p r result hfinish hr
        exact Plan.followable_of_finish hfinish hr
    obtain ⟨_, hresult⟩ := hwithin.replay fun answer (_ : answer ∈ answers) => trivial
    exact hresult _ hchunk chunk rfl

/-- A truncated page that names both markers and then the first one again, without a text. -/
def renamedMarkerPage : Http.Response :=
  { status := 200, headers := [],
    body := { pieces := [utf8 ("<ListMultipartUploadsResult><IsTruncated>true</IsTruncated>" ++
      "<NextKeyMarker>k</NextKeyMarker><NextUploadIdMarker>u</NextUploadIdMarker>" ++
      "<NextKeyMarker/></ListMultipartUploadsResult>")] } }

/-- Of the two markers one is left, and behind a fault the chunk is returned with it. -/
theorem followable_of_renamedMarkerPage :
    ∃ chunk, (((ofConfig {} ⟨2024, 3, 5, 7, 8, 9, 2⟩).listUploads "b"
        { markers := { primary := some "j" } } .chunk).run.replay
        [.error (.transport .connectionReset), .ok renamedMarkerPage]).2.2 = some (.ok chunk) ∧
      (chunk.truncated, chunk.next) = (true, { secondary := some "u" }) ∧
      chunk.Followable .chunk := by
  have hread : ((((ofConfig {} ⟨2024, 3, 5, 7, 8, 9, 2⟩).listUploads "b"
      { markers := { primary := some "j" } } .chunk).run.replay
      [.error (.transport .connectionReset), .ok renamedMarkerPage]).2.2.bind
        Except.toOption).map (fun chunk => (chunk.truncated, chunk.next)) =
      some (true, { secondary := some "u" }) := by
    decide +kernel
  obtain ⟨chunk, hchunk, hmarked⟩ := Option.map_eq_some_iff.1 hread
  obtain ⟨result, hresult, hok⟩ := Option.bind_eq_some_iff.1 hchunk
  obtain rfl : result = .ok chunk := by
    cases result with
    | error f => cases hok
    | ok a =>
      cases hok
      rfl
  exact ⟨chunk, hresult, hmarked, followable_of_lists (.uploads "b" _ .chunk) hresult⟩

end Client

end ObjectStore
