import ObjectStore.Proofs.Listing.Retries
import ObjectStore.Proofs.QueryText
/-!
# From attempt to attempt

`Plan.places` are the markers with which a pager asks, attempt after attempt.  It stays where it
is after a transient fault, and a page leads it elsewhere (`Plan.places_succ`).

**A query string says which markers it carries** (`Kind.eq_of_text_eq`), so elsewhere is another
query.  That needs markers that the listing can send: from a second marker that it does not send a
pager moves on to markers whose query is the same.  No page of a listing with one marker names a
second (`Kind.Marked`), so such a marker can only be one that the listing was asked to start at.
-/

namespace ObjectStore

namespace Listing

variable {α : Type}

namespace Plan

variable {plan : Plan} {p p' : Pager α}

/-- The query with the given markers. -/
def queryAt (plan : Plan) (m : Markers) : Query :=
  plan.kind.pageQuery plan.base { plan.start with markers := m }

/-- The markers of the pager at each of its queries. -/
def places (plan : Plan) (p : Pager α) : List (Except Fault (Chunk α)) → List Markers
  | [] => [p.markers]
  | r :: rs =>
    match plan.receive p r with
    | .finish _ => [p.markers]
    | .goOn p' => p.markers :: plan.places p' rs

theorem places_of_goOn {r : Except Fault (Chunk α)} (h : plan.receive p r = .goOn p')
    (rs : List (Except Fault (Chunk α))) :
    plan.places p (r :: rs) = p.markers :: plan.places p' rs := by
  simp only [places, h]

theorem places_of_finish {r result : Except Fault (Chunk α)}
    (h : plan.receive p r = .finish result) (rs : List (Except Fault (Chunk α))) :
    plan.places p (r :: rs) = [p.markers] := by
  simp only [places, h]

theorem head?_places (plan : Plan) (p : Pager α) (rs : List (Except Fault (Chunk α))) :
    (plan.places p rs).head? = some p.markers := by
  cases rs with
  | nil => rfl
  | cons r rs =>
    rcases hr : plan.receive p r with p' | result
    · rw [places_of_goOn hr]
      rfl
    · rw [places_of_finish hr]
      rfl

/-- The queries of a run are those of its places. -/
theorem queries_eq_places (plan : Plan) (p : Pager α) (rs : List (Except Fault (Chunk α))) :
    (plan.replay p rs).1 = (plan.places p rs).map plan.queryAt := by
  induction rs generalizing p with
  | nil => rfl
  | cons r rs ih =>
    rcases hr : plan.receive p r with p' | result
    · rw [replay_of_goOn hr, places_of_goOn hr, List.map_cons, ih]
      rfl
    · rw [replay_of_finish hr, places_of_finish hr]
      rfl

/-- A page that may be followed names a way on, and not the one that led to it. -/
theorem violation?_eq_none_iff {page : Chunk α} : plan.violation? p page = none ↔
    (page.truncated = true → page.next ≠ {} ∧ page.next ≠ p.markers) := by
  rw [violation?]
  split
  · next htruncated =>
    split
    · next hempty => simp [htruncated, hempty]
    · next hempty =>
      split
      · next hsame => simp [htruncated, hsame]
      · next hsame => simp [hempty, hsame]
  · next htruncated => simp [htruncated]

/-- A pager that goes on is where it was after a fault, and somewhere else after a page. -/
theorem markers_of_goOn {r : Except Fault (Chunk α)} (h : plan.receive p r = .goOn p') :
    (isTransient r = true ∧ p'.markers = p.markers) ∨
      ∃ page, r = .ok page ∧ page.truncated = true ∧ p'.markers = page.next ∧
        page.next ≠ p.markers := by
  cases r with
  | error f =>
    rw [receive_error] at h
    split at h
    · next hagain =>
      cases h
      exact .inl ⟨hagain.1, rfl⟩
    · cases h
  | ok page =>
    right
    refine ⟨page, rfl, ?_⟩
    rw [receive, receivePage] at h
    split at h
    · cases h
    · next hviolation =>
      split at h
      · cases h
      · split at h
        · next htruncated =>
          cases h
          exact ⟨htruncated, rfl, (violation?_eq_none_iff.1 hviolation htruncated).2⟩
        · cases h

/-- Between two attempts in a row there is one answer, from which the pager went on. -/
theorem exists_goOn_of_places {rs : List (Except Fault (Chunk α))} {i : Nat} {m m' : Markers}
    (hm : (plan.places p rs)[i]? = some m) (hm' : (plan.places p rs)[i + 1]? = some m') :
    ∃ r, ∃ before after : Pager α, rs[i]? = some r ∧ plan.receive before r = .goOn after ∧
      before.markers = m ∧ after.markers = m' := by
  induction rs generalizing p i with
  | nil => cases hm'
  | cons r rs ih =>
    rcases hr : plan.receive p r with p' | result
    · rw [places_of_goOn hr] at hm hm'
      cases i with
      | zero =>
        rw [List.getElem?_cons_succ, ← List.head?_eq_getElem?, head?_places] at hm'
        exact ⟨r, p, p', rfl, hr, Option.some.inj hm, Option.some.inj hm'⟩
      | succ i => exact ih hm hm'
    · rw [places_of_finish hr] at hm'
      cases hm'

/-- Two attempts in a row are at one place exactly if the first came to a transient fault. -/
theorem places_succ {rs : List (Except Fault (Chunk α))} {i : Nat} {m m' : Markers}
    (hm : (plan.places p rs)[i]? = some m) (hm' : (plan.places p rs)[i + 1]? = some m') :
    ∃ r, rs[i]? = some r ∧ (m' = m ↔ isTransient r = true) := by
  obtain ⟨r, before, after, hr, hgoOn, rfl, rfl⟩ := exists_goOn_of_places hm hm'
  refine ⟨r, hr, ?_⟩
  rcases markers_of_goOn hgoOn with ⟨htransient, hsame⟩ | ⟨page, rfl, _, hnext, hother⟩
  · exact ⟨fun _ => htransient, fun _ => hsame⟩
  · constructor
    · intro hsame
      exact absurd (hnext.symm.trans hsame) hother
    · intro htransient
      cases htransient

/-- Each place is the first or the one that a page leads to. -/
theorem carries_of_mem_places {rs : List (Except Fault (Chunk α))}
    (hp : plan.kind.Carries p.markers)
    (hpages : ∀ page, .ok page ∈ rs → plan.kind.Carries page.next) :
    ∀ m ∈ plan.places p rs, plan.kind.Carries m := by
  induction rs generalizing p with
  | nil =>
    intro m hm
    obtain rfl := List.mem_singleton.1 hm
    exact hp
  | cons r rs ih =>
    rcases hr : plan.receive p r with p' | result
    · rw [places_of_goOn hr]
      intro m hm
      rcases List.mem_cons.1 hm with rfl | hlater
      · exact hp
      · refine ih ?_ (fun page hpage => hpages page (List.mem_cons_of_mem _ hpage)) m hlater
        rcases markers_of_goOn hr with ⟨_, hsame⟩ | ⟨page, rfl, _, hnext, _⟩
        · rw [hsame]
          exact hp
        · rw [hnext]
          exact hpages page List.mem_cons_self
    · rw [places_of_finish hr]
      intro m hm
      obtain rfl := List.mem_singleton.1 hm
      exact hp

/-! ### Faults in a row -/

theorem length_le_streak {past burst : List (Except Fault (Chunk α))}
    (h : ∀ r ∈ burst, isTransient r = true) : burst.length ≤ streak (past ++ burst) := by
  have hburst : ∀ r ∈ burst.reverse, isTransient r = true := fun r hr => h r (List.mem_reverse.1 hr)
  rw [streak, List.reverse_append, List.takeWhile_append_of_pos hburst, List.length_append,
    List.length_reverse]
  exact Nat.le_add_right _ _

/-- Only so many faults in a row are followed by another attempt. -/
theorem le_retryMax_of_faults (plan : Plan) {rs : List (Except Fault (Chunk α))} {i n : Nat}
    (hreached : i + n < (plan.replay plan.begin rs).1.length)
    (hfaults : ∀ k, k < n → ∃ r, rs[i + k]? = some r ∧ isTransient r = true) :
    n ≤ plan.retryMax := by
  cases n with
  | zero => exact Nat.zero_le _
  | succ n =>
    obtain ⟨r, hr, htransient⟩ := hfaults n (Nat.lt_succ_self n)
    obtain ⟨f, rfl⟩ : ∃ f, r = .error f := by
      cases r with
      | error f => exact ⟨f, rfl⟩
      | ok page => cases htransient
    have hbefore : i + n < (plan.replay plan.begin rs).1.length := Nat.lt_of_succ_lt hreached
    have hat := plan.counts_begin.replay_at_fault hbefore hr
    rw [List.nil_append] at hat
    split at hat
    · next hagain =>
      have hlength : (rs.drop i).length ≥ n + 1 := by
        have hlt := (List.getElem?_eq_some_iff.1 hr).1
        rw [List.length_drop]
        omega
      have hburst : ∀ r ∈ (rs.drop i).take (n + 1), isTransient r = true := by
        intro r hmem
        obtain ⟨k, hk, hget⟩ := List.mem_take_iff_getElem.1 hmem
        obtain ⟨r', hr', htransient'⟩ := hfaults k (by omega)
        rw [List.getElem_drop] at hget
        rw [List.getElem?_eq_some_iff] at hr'
        obtain ⟨_, hr'⟩ := hr'
        rw [← hget, hr']
        exact htransient'
      have hstreak : _ ≤ streak (rs.take i ++ _) := length_le_streak hburst
      rw [← List.take_add, List.length_take, Nat.min_eq_left hlength] at hstreak
      exact Nat.le_trans hstreak hagain.2
    · rw [hat.1] at hreached
      omega

/-! ### Within a budget -/

/-- A budget cuts the queries off, and is all that it does to them. -/
theorem queries_dialogue (plan : Plan) (budget : Nat) (p : Pager α)
    (rs : List (Except Fault (Chunk α))) :
    ((plan.dialogue budget p).replay rs).1 = (plan.replay p rs).1.take budget := by
  induction budget generalizing p rs with
  | zero => rfl
  | succ n ih =>
    cases rs with
    | nil => simp only [dialogue, Dialogue.replay, replay, List.take_succ_cons, List.take_nil]
    | cons r rs =>
      simp only [dialogue, Dialogue.replay]
      rcases hr : plan.receive p r with p' | result
      · rw [replay_of_goOn hr]
        simp only [ih p' rs, List.take_succ_cons]
      · rw [replay_of_finish hr]
        simp only [Dialogue.replay, List.take_succ_cons, List.take_nil]

end Plan

/-! ### Markers in a request -/

/-- What the kind sends of the markers is the same. Under one name the second takes the place of
the first. -/
structure Kind.SameSent (k : Kind) (m m' : Markers) : Prop where
  primary : k.secondaryName ≠ some k.primaryName → m.primary = m'.primary
  secondary : k.secondaryName ≠ none → m.secondary = m'.secondary

namespace Kind

variable {k : Kind} {m m' : Markers}

theorem parameters_withMarkers (k : Kind) (q : Query) (m : Markers) (name : String) :
    (k.withMarkers q m).parameters.get? name =
      if k.secondaryName = some name then m.secondary.map some
      else if name = k.primaryName then m.primary.map some
      else q.parameters.get? name := by
  rcases hname : k.secondaryName with _ | other
  · simp [withMarkers, hname, Query.parameters_setOrRemove]
  · by_cases h : name = other
    · simp [withMarkers, hname, Query.parameters_setOrRemove, h]
    · simp [withMarkers, hname, Query.parameters_setOrRemove, h, Ne.symm h]

/-- But for its markers, the query of a page is always one. -/
theorem exists_pageQuery_eq (k : Kind) (base : Query) (s : PageState) :
    ∃ q, ∀ m, k.pageQuery base { s with markers := m } = k.withMarkers q m := by
  simp only [pageQuery]
  exact ⟨_, fun _ => rfl⟩

theorem SameSent.withMarkers_eq (h : k.SameSent m m') (q : Query) :
    k.withMarkers q m = k.withMarkers q m' := by
  suffices hparameters : (k.withMarkers q m).parameters = (k.withMarkers q m').parameters by
    exact congrArg Query.mk hparameters
  apply Table.eq_of_get?_eq
  intro name
  rw [parameters_withMarkers, parameters_withMarkers]
  split
  · next hname => rw [h.secondary (by simp [hname])]
  · next hname =>
    split
    · next hfirst =>
      subst hfirst
      rw [h.primary hname]
    · rfl

theorem sameSent_of_text_eq {q : Query}
    (h : (k.withMarkers q m).text = (k.withMarkers q m').text) : k.SameSent m m' := by
  have hvalue : ∀ v : Option String, (v.map some).map (·.getD "") = v := by
    intro v
    cases v with
    | none => rfl
    | some value => rfl
  constructor
  · intro hname
    have hsame := Query.get?_eq_of_text_eq h k.primaryName
    simpa [parameters_withMarkers, hname, hvalue] using hsame
  · intro hname
    obtain ⟨name, hname⟩ := Option.ne_none_iff_exists'.1 hname
    have hsame := Query.get?_eq_of_text_eq h name
    simpa [parameters_withMarkers, hname, hvalue] using hsame

/-- Of the markers that can be sent, none look the same. -/
theorem SameSent.eq (h : k.SameSent m m') (hk : k.Separate) (hm : k.Carries m)
    (hm' : k.Carries m') : m = m' := by
  have hprimary : m.primary = m'.primary := h.primary hk
  have hsecondary : m.secondary = m'.secondary := by
    by_cases hname : k.secondaryName = none
    · rw [hm hname, hm' hname]
    · exact h.secondary hname
  obtain ⟨primary, secondary⟩ := m
  obtain ⟨primary', secondary'⟩ := m'
  obtain rfl : primary = primary' := hprimary
  obtain rfl : secondary = secondary' := hsecondary
  rfl

/-- **A query string says which markers it carries**, of those that the listing can send. -/
theorem eq_of_text_eq (hk : k.Separate) {base : Query} {s : PageState} (hm : k.Carries m)
    (hm' : k.Carries m')
    (h : (k.pageQuery base { s with markers := m }).text =
      (k.pageQuery base { s with markers := m' }).text) : m = m' := by
  obtain ⟨q, hq⟩ := k.exists_pageQuery_eq base s
  rw [hq, hq] at h
  exact (sameSent_of_text_eq h).eq hk hm hm'

end Kind

end Listing

end ObjectStore
