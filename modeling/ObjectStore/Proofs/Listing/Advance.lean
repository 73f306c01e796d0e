import ObjectStore.Proofs.Listing.Places
/-!
# Whether the next page is another one

A page from which a listing goes on names other markers than it was asked with; the pager sees to
that.  But the pager compares both markers, and the query carries only those that the kind of the
listing has parameters for.  Where nothing that is sent tells the markers apart (`Kind.SameSent`)
**and only there the page is asked for again** (`Plan.advances_replay`).

So a listing with two markers never asks for a page again behind that page, and neither does one
with a single marker as long as nobody gives it a second (`Plan.Advances.another`).
-/

namespace ObjectStore.Listing

variable {α : Type}

namespace Plan

variable {plan : Plan}

theorem queryAt_eq_iff {m m' : Markers} :
    plan.queryAt m' = plan.queryAt m ↔ plan.kind.SameSent m' m := by
  obtain ⟨q, hq⟩ := plan.kind.exists_pageQuery_eq plan.base plan.start
  rw [queryAt, queryAt, hq, hq]
  constructor
  · intro h
    exact Kind.sameSent_of_text_eq (congrArg Query.text h)
  · intro h
    exact h.withMarkers_eq q

theorem queryAt_eq_of_text_eq {m m' : Markers}
    (h : (plan.queryAt m').text = (plan.queryAt m).text) : plan.queryAt m' = plan.queryAt m := by
  obtain ⟨q, hq⟩ := plan.kind.exists_pageQuery_eq plan.base plan.start
  rw [queryAt, queryAt, hq, hq] at h
  exact queryAt_eq_iff.2 (Kind.sameSent_of_text_eq h)

/-- What a listing asks for behind a page that it goes on from. -/
structure Advances (plan : Plan) (answers : List (Except Fault (Chunk α))) : Prop where
  /-- The page is truncated and names markers, not all of them those that it was asked for with.
  The next query has the page's markers, and it is the same again exactly if nothing that is sent
  tells them from those before. -/
  again_iff : ∀ (i : Nat) (page : Chunk α) (q q' : Query), answers[i]? = some (.ok page) →
    (plan.replay plan.begin answers).1[i]? = some q →
    (plan.replay plan.begin answers).1[i + 1]? = some q' →
      ∃ m, q = plan.queryAt m ∧ q' = plan.queryAt page.next ∧ page.truncated = true ∧
        page.next ≠ m ∧ (q' = q ↔ plan.kind.SameSent page.next m)
  /-- Different queries have different texts. -/
  text : ∀ (i : Nat) (q q' : Query), (plan.replay plan.begin answers).1[i]? = some q →
    (plan.replay plan.begin answers).1[i + 1]? = some q' → q'.text = q.text → q' = q
  /-- Where all markers can be sent, another page is asked for. -/
  another : plan.kind.Separate → plan.kind.Carries plan.start.markers →
    (∀ page, .ok page ∈ answers → plan.kind.Carries page.next) →
    ∀ (i : Nat) (page : Chunk α) (q q' : Query), answers[i]? = some (.ok page) →
      (plan.replay plan.begin answers).1[i]? = some q →
      (plan.replay plan.begin answers).1[i + 1]? = some q' → q' ≠ q

/-- Each query of a run is asked at some place. -/
theorem exists_place_of_query {p : Pager α} {answers : List (Except Fault (Chunk α))} {i : Nat}
    {q : Query} (h : (plan.replay p answers).1[i]? = some q) :
    ∃ m, (plan.places p answers)[i]? = some m ∧ q = plan.queryAt m := by
  rw [queries_eq_places, List.getElem?_map, Option.map_eq_some_iff] at h
  obtain ⟨m, hm, hq⟩ := h
  exact ⟨m, hm, hq.symm⟩

theorem next_of_places {p : Pager α} {answers : List (Except Fault (Chunk α))} {i : Nat}
    {page : Chunk α} {m m' : Markers} (hpage : answers[i]? = some (.ok page))
    (hm : (plan.places p answers)[i]? = some m)
    (hm' : (plan.places p answers)[i + 1]? = some m') :
    m' = page.next ∧ page.truncated = true ∧ page.next ≠ m := by
  obtain ⟨r, before, after, hr, hgoOn, rfl, rfl⟩ := exists_goOn_of_places hm hm'
  rw [hpage] at hr
  cases hr
  rcases markers_of_goOn hgoOn with ⟨htransient, _⟩ | ⟨page', hsame, htruncated, hnext, hother⟩
  · cases htransient
  · cases hsame
    exact ⟨hnext, htruncated, hother⟩

/-- **A page is asked for again exactly if the way on from it looks the same on the wire.** -/
theorem advances_replay (plan : Plan) (answers : List (Except Fault (Chunk α))) :
    plan.Advances answers := by
  constructor
  · intro i page q q' hpage hq hq'
    obtain ⟨m, hm, rfl⟩ := exists_place_of_query hq
    obtain ⟨m', hm', rfl⟩ := exists_place_of_query hq'
    obtain ⟨rfl, htruncated, hother⟩ := next_of_places hpage hm hm'
    exact ⟨m, rfl, rfl, htruncated, hother, queryAt_eq_iff⟩
  · intro i q q' hq hq' htext
    obtain ⟨m, _, rfl⟩ := exists_place_of_query hq
    obtain ⟨m', _, rfl⟩ := exists_place_of_query hq'
    exact queryAt_eq_of_text_eq htext
  · intro hkind hstart hpages i page q q' hpage hq hq' hsame
    obtain ⟨m, hm, rfl⟩ := exists_place_of_query hq
    obtain ⟨m', hm', rfl⟩ := exists_place_of_query hq'
    obtain ⟨rfl, _, hother⟩ := next_of_places hpage hm hm'
    have hplaces := plan.carries_of_mem_places (p := plan.begin) hstart hpages
    have hm := hplaces m (List.mem_of_getElem? hm)
    have hm' := hplaces page.next (List.mem_of_getElem? hm')
    exact hother ((queryAt_eq_iff.1 hsame).eq hkind hm' hm)

/-- A listing of objects that was to start at `A`, and at a second marker that it does not send,
takes the page that leads to `A` for progress and asks for it again. -/
theorem replay_again_behind_hidden_marker :
    ∃ q : Query, q.text = "continuation-token=A&list-type=2" ∧
      (Plan.replay
        { kind := .objects, mode := .merge,
          start := { markers := { primary := some "A", secondary := some "x" } } }
        (Plan.begin
          { kind := .objects, mode := .merge,
            start := { markers := { primary := some "A", secondary := some "x" } } })
        [.ok { items := ["k"], truncated := true, next := { primary := some "A" } }]).1 = [q, q] :=
  ⟨_, by decide +kernel, rfl⟩

end Plan

end ObjectStore.Listing
