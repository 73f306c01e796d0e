import Mathlib.Data.Finset.Card
import ObjectStore.Proofs.Listing.Retries
/-!
# Where a listing ends

A server that answers each query in one way sends a listing from markers to markers:
`Plan.next?` says where it goes on after the page at given markers, and `Plan.place?` where it
is after so many pages.  What the pager has put together decides nothing of this, and faults
only put the end off, for as many attempts as are put up with.

The pager looks no further back than to the markers that it asked with.  So a page that names none,
or the same again, is a fault of the protocol, while **a longer way round is followed for ever:**
where the server has finitely many markers the listing ends if and only if it never comes back to
markers that it has left (`Plan.ending_of_finite`).
-/

namespace ObjectStore.Listing.Plan

variable {α : Type} {plan : Plan} {server : Query → Except Fault (Chunk α)}

/-- The listing against a server that answers each query in one way, if it ends within so many
answers. -/
def held (plan : Plan) (server : Query → Except Fault (Chunk α)) (budget : Nat) (p : Pager α) :
    Option (Except Fault (Chunk α)) :=
  Id.run ((plan.dialogue budget p).run fun q => pure (server q))

theorem held_of_goOn {p p' : Pager α} (h : plan.receive p (server (plan.query p)) = .goOn p')
    (budget : Nat) : plan.held server (budget + 1) p = plan.held server budget p' := by
  rw [held, dialogue, Dialogue.run, Id.run_bind, Id.run_pure, h]
  rfl

theorem held_of_finish {p : Pager α} {result : Except Fault (Chunk α)}
    (h : plan.receive p (server (plan.query p)) = .finish result) (budget : Nat) :
    plan.held server (budget + 1) p = some result := by
  rw [held, dialogue, Dialogue.run, Id.run_bind, Id.run_pure, h]
  rfl

/-- What has ended has ended for every larger budget. -/
theorem held_mono {budget : Nat} {p : Pager α} {result : Except Fault (Chunk α)}
    (h : plan.held server budget p = some result) {larger : Nat} (hle : budget ≤ larger) :
    plan.held server larger p = some result := by
  induction budget generalizing p larger with
  | zero => cases h
  | succ n ih =>
    obtain ⟨larger, rfl⟩ := Nat.exists_eq_succ_of_ne_zero (Nat.ne_zero_of_lt hle)
    rcases hr : plan.receive p (server (plan.query p)) with p' | end'
    · rw [held_of_goOn hr] at h ⊢
      exact ih h (Nat.le_of_succ_le_succ hle)
    · rw [held_of_finish hr] at h ⊢
      exact h

/-! ### From markers to markers -/

/-- What the server answers to the query with the given markers. -/
def answerAt (plan : Plan) (server : Query → Except Fault (Chunk α)) (m : Markers) :
    Except Fault (Chunk α) :=
  server (plan.kind.pageQuery plan.base { plan.start with markers := m })

/-- Where the listing goes on after the page at the given markers. -/
def next? (plan : Plan) (server : Query → Except Fault (Chunk α)) (m : Markers) : Option Markers :=
  match plan.answerAt server m with
  | .ok page =>
    if page.truncated = true ∧ page.next ≠ {} ∧ page.next ≠ m then some page.next else none
  | .error _ => none

/-- Where the listing is after so many pages from the given markers on. -/
def place? (plan : Plan) (server : Query → Except Fault (Chunk α)) : Nat → Markers → Option Markers
  | 0, m => some m
  | k + 1, m => (plan.next? server m).bind (plan.place? server k)

/-- Whether the listing is at some markers twice. -/
def ComesBack (plan : Plan) (server : Query → Except Fault (Chunk α)) : Prop :=
  ∃ i j m, i < j ∧ plan.place? server i plan.start.markers = some m ∧
    plan.place? server j plan.start.markers = some m

theorem place?_add (i k : Nat) (m : Markers) :
    plan.place? server (i + k) m = (plan.place? server i m).bind (plan.place? server k) := by
  induction i generalizing m with
  | zero => rw [Nat.zero_add, place?, Option.bind_some]
  | succ i ih =>
    rw [Nat.succ_add, place?, place?, Option.bind_assoc]
    exact congrArg _ (funext ih)

theorem place?_succ {k : Nat} {m m' : Markers} (h : plan.place? server k m = some m') :
    plan.place? server (k + 1) m = plan.next? server m' := by
  rw [place?_add, h, Option.bind_some, place?]
  exact Option.bind_fun_some _

theorem exists_page_of_next? {m m' : Markers} (h : plan.next? server m = some m') :
    ∃ page, plan.answerAt server m = .ok page ∧ page.truncated = true ∧ page.next = m' ∧
      m' ≠ {} ∧ m' ≠ m := by
  unfold next? at h
  split at h
  · next page hpage =>
    split at h
    · next hmore =>
      cases h
      exact ⟨page, hpage, hmore.1, rfl, hmore.2⟩
    · cases h
  · cases h

/-- A listing that comes back is always somewhere. -/
theorem ComesBack.isSome_place? (h : plan.ComesBack server) (k : Nat) :
    (plan.place? server k plan.start.markers).isSome = true := by
  obtain ⟨i, j, m, hlt, hi, hj⟩ := h
  -- a place behind the second visit is one behind the first, with a smaller number
  induction k using Nat.strongRecOn with
  | ind k ih =>
    by_cases hk : k ≤ j
    · rw [← Nat.add_sub_of_le hk, place?_add] at hj
      rcases hplace : plan.place? server k plan.start.markers with _ | place
      · rw [hplace] at hj
        cases hj
      · rfl
    · have hsame : plan.place? server k plan.start.markers =
          plan.place? server (i + (k - j)) plan.start.markers := by
        rw [place?_add, hi, ← hj, ← place?_add, Nat.add_sub_of_le (Nat.le_of_not_le hk)]
      rw [hsame]
      exact ih _ (by omega)

/-- A listing that does not come back runs out of markers. -/
theorem exists_last_place (S : Finset Markers)
    (hS : ∀ q page, server q = .ok page → page.truncated = true → page.next ∈ S)
    (h : ¬plan.ComesBack server) :
    ∃ k m, k ≤ S.card ∧ plan.place? server k plan.start.markers = some m ∧
      plan.next? server m = none := by
  by_contra hnone
  have hsome : ∀ k ≤ S.card + 1, ∃ m, plan.place? server k plan.start.markers = some m := by
    intro k hk
    induction k with
    | zero => exact ⟨_, rfl⟩
    | succ k ih =>
      obtain ⟨m, hm⟩ := ih (Nat.le_of_succ_le hk)
      rcases hnext : plan.next? server m with _ | m'
      · exact absurd ⟨k, m, Nat.le_of_succ_le_succ hk, hm, hnext⟩ hnone
      · exact ⟨m', (place?_succ hm).trans hnext⟩
  -- the places behind the first are markers that pages name, and there are too few of these
  let place (k : Nat) : Markers := (plan.place? server (k + 1) plan.start.markers).getD {}
  have hplace : ∀ k ∈ Finset.range (S.card + 1),
      plan.place? server (k + 1) plan.start.markers = some (place k) := by
    intro k hk
    obtain ⟨m, hm⟩ := hsome (k + 1) (Finset.mem_range.1 hk)
    simp only [place, hm, Option.getD_some]
  have hmem : ∀ k ∈ Finset.range (S.card + 1), place k ∈ S := by
    intro k hk
    obtain ⟨m, hm⟩ := hsome k (Nat.le_of_lt (Finset.mem_range.1 hk))
    have hnext := (place?_succ hm).symm.trans (hplace k hk)
    obtain ⟨page, hpage, htruncated, hnamed, _⟩ := exists_page_of_next? hnext
    exact hnamed ▸ hS _ page hpage htruncated
  obtain ⟨i, hi, j, hj, hne, hsame⟩ :=
    Finset.exists_ne_map_eq_of_card_lt_of_maps_to (by simp) hmem
  rcases Nat.lt_or_gt_of_ne hne with hlt | hlt
  · exact h ⟨i + 1, j + 1, place i, by omega, hplace i hi, hsame ▸ hplace j hj⟩
  · exact h ⟨j + 1, i + 1, place j, by omega, hplace j hj, hsame ▸ hplace i hi⟩

/-! ### The pager on its way -/

section

variable {m m' : Markers} {page : Chunk α}

/-- A truncated page that leads nowhere is a fault of the protocol. -/
theorem receive_stalled (plan : Plan) (retry : Retry) (merged : Chunk α)
    (htruncated : page.truncated = true) (h : page.next = {} ∨ page.next = m) :
    ∃ v, plan.receive ⟨m, retry, merged⟩ (.ok page) =
      .finish (.error (.protocol plan.context v)) := by
  by_cases hnone : page.next = {}
  · refine ⟨.noNextMarker plan.kind.name, ?_⟩
    simp only [receive, receivePage, violation?, htruncated, if_true, if_pos hnone]
  · refine ⟨.noAdvance plan.kind.name, ?_⟩
    have hsame : page.next = m := h.resolve_left hnone
    simp only [receive, receivePage, violation?, htruncated, if_true, if_neg hnone, if_pos hsame]

/-- A page behind which there is nothing ends the listing. -/
theorem receive_last (hmode : plan.mode = .merge) (h : plan.next? server m = none)
    (hpage : plan.answerAt server m = .ok page) (retry : Retry) (merged : Chunk α) :
    ∃ result, plan.receive ⟨m, retry, merged⟩ (.ok page) = .finish result := by
  cases htruncated : page.truncated with
  | false => exact ⟨_, receive_lastPage hmode htruncated⟩
  | true =>
    have hstalled : page.next = {} ∨ page.next = m := by
      by_contra hmore
      rw [not_or] at hmore
      simp only [next?, hpage, htruncated, hmore, ne_eq, not_false_eq_true, and_self, if_true] at h
      cases h
    obtain ⟨v, hv⟩ := receive_stalled plan retry merged htruncated hstalled
    exact ⟨_, hv⟩

/-- A pager goes on to the next place. -/
theorem held_of_next? (hmode : plan.mode = .merge) (h : plan.next? server m = some m')
    (retry : Retry) (merged : Chunk α) :
    ∃ merged', ∀ budget, plan.held server (budget + 1) ⟨m, retry, merged⟩ =
      plan.held server budget ⟨m', retry.reset, merged'⟩ := by
  obtain ⟨page, hpage, htruncated, rfl, hnamed, hadvance⟩ := exists_page_of_next? h
  have hreceive : plan.receive ⟨m, retry, merged⟩ (plan.answerAt server m) =
      .goOn ⟨page.next, retry.reset, merged.append page⟩ := by
    rw [hpage]
    exact receive_page hmode htruncated hnamed hadvance
  exact ⟨merged.append page, held_of_goOn hreceive⟩

/-- A pager that has met no fault goes from place to place, and meets none on its way. -/
theorem held_of_place? (hmode : plan.mode = .merge) {k : Nat}
    (h : plan.place? server k m = some m') (max : Nat) (merged : Chunk α) :
    ∃ merged', ∀ budget, plan.held server (k + budget) ⟨m, { max }, merged⟩ =
      plan.held server budget ⟨m', { max }, merged'⟩ := by
  induction k generalizing m merged with
  | zero =>
    cases h
    exact ⟨merged, fun budget => by rw [Nat.zero_add]⟩
  | succ k ih =>
    obtain ⟨next, hnext, hrest⟩ := Option.bind_eq_some_iff.1 h
    obtain ⟨merged₁, hstep⟩ := held_of_next? hmode hnext { max } merged
    obtain ⟨merged', hheld⟩ := ih hrest merged₁
    refine ⟨merged', fun budget => ?_⟩
    rw [Nat.succ_add, hstep]
    exact hheld budget

/-- At the last place the listing ends, after the faults that are put up with. -/
theorem held_of_last (hmode : plan.mode = .merge) (h : plan.next? server m = none)
    {retry : Retry} (left : Nat) (hleft : retry.attempts + left = retry.max)
    (merged : Chunk α) :
    ∃ result, plan.held server (left + 1) ⟨m, retry, merged⟩ = some result := by
  rcases hanswer : plan.answerAt server m with f | page
  · -- the same fault again and again: it is handed back when there are too many in a row
    have hreceive : ∀ retry : Retry, plan.receive ⟨m, retry, merged⟩ (plan.answerAt server m) =
        if f.isTransient = true ∧ retry.attempts < retry.max then
          .goOn ⟨m, { retry with attempts := retry.attempts + 1 }, merged⟩
        else .finish (.error f) := by
      intro retry
      rw [hanswer]
      exact receive_error plan _ f
    induction left generalizing retry with
    | zero =>
      have hspent : ¬retry.attempts < retry.max := by omega
      have hend := hreceive retry
      rw [if_neg fun hcap => hspent hcap.2] at hend
      exact ⟨_, held_of_finish hend 0⟩
    | succ left ih =>
      have hagain := hreceive retry
      by_cases htransient : f.isTransient
      · rw [if_pos ⟨htransient, by omega⟩] at hagain
        let again : Retry := { retry with attempts := retry.attempts + 1 }
        have hleft' : again.attempts + left = again.max := by
          show retry.attempts + 1 + left = retry.max
          omega
        obtain ⟨result, hresult⟩ := ih hleft'
        exact ⟨result, (held_of_goOn hagain _).trans hresult⟩
      · rw [if_neg fun hcap => htransient hcap.1] at hagain
        exact ⟨_, held_of_finish hagain _⟩
  · obtain ⟨result, hresult⟩ := receive_last hmode h hanswer retry merged
    exact ⟨result, held_of_finish ((congrArg _ hanswer).trans hresult) left⟩

theorem held_begin_of_stalled (hmode : plan.mode = .merge) {k : Nat}
    (hplace : plan.place? server k plan.start.markers = some m)
    (hpage : plan.answerAt server m = .ok page) (htruncated : page.truncated = true)
    (h : page.next = {} ∨ page.next = m) :
    ∃ v, plan.held server (k + 1) plan.begin = some (.error (.protocol plan.context v)) := by
  obtain ⟨merged', hheld⟩ := held_of_place? hmode hplace plan.retryMax {}
  obtain ⟨v, hv⟩ := receive_stalled plan { max := plan.retryMax } merged' htruncated h
  refine ⟨v, (hheld 1).trans (held_of_finish ?_ 0)⟩
  exact (congrArg _ hpage).trans hv

/-- A listing that comes back goes on for ever. -/
theorem ComesBack.held_eq_none (hmode : plan.mode = .merge) (h : plan.ComesBack server)
    (budget : Nat) : plan.held server budget plan.begin = none := by
  obtain ⟨m, hm⟩ := Option.isSome_iff_exists.1 (h.isSome_place? budget)
  obtain ⟨merged', hheld⟩ := held_of_place? hmode hm plan.retryMax {}
  exact hheld 0

end

/-- What becomes of a listing on a server that answers each query in one way. -/
structure Ending (plan : Plan) (server : Query → Except Fault (Chunk α)) (bound : Nat) : Prop where
  /-- It ends, with a listing or a fault, unless it comes back to markers that it has left. -/
  ends_iff : (∃ budget result, plan.held server budget plan.begin = some result) ↔
    ¬plan.ComesBack server
  within : ∀ budget result, plan.held server budget plan.begin = some result →
    plan.held server bound plan.begin = some result
  /-- A truncated page without markers, or with those it was asked with, is the end. -/
  stalled : ∀ k m page, plan.place? server k plan.start.markers = some m →
    plan.answerAt server m = .ok page → page.truncated = true →
    page.next = {} ∨ page.next = m →
    ∃ v, plan.held server (k + 1) plan.begin = some (.error (.protocol plan.context v))

/-- **A listing ends if and only if it does not go round in a circle**, where a server has finitely
many markers: after as many pages as there are markers, one more for the start, and the faults that
are put up with. -/
theorem ending_of_finite (hmode : plan.mode = .merge) (S : Finset Markers)
    (hS : ∀ q page, server q = .ok page → page.truncated = true → page.next ∈ S) :
    plan.Ending server (S.card + 1 + plan.retryMax) := by
  have hend : ¬plan.ComesBack server →
      ∃ result, plan.held server (S.card + 1 + plan.retryMax) plan.begin = some result := by
    intro hback
    obtain ⟨k, m, hk, hplace, hnext⟩ := exists_last_place S hS hback
    obtain ⟨merged', hheld⟩ := held_of_place? hmode hplace plan.retryMax {}
    have hleft : ({ max := plan.retryMax } : Retry).attempts + plan.retryMax = plan.retryMax :=
      Nat.zero_add _
    obtain ⟨result, hresult⟩ := held_of_last hmode hnext plan.retryMax hleft merged'
    exact ⟨result, held_mono ((hheld _).trans hresult) (by omega)⟩
  have hback : ∀ budget result, plan.held server budget plan.begin = some result →
      ¬plan.ComesBack server := by
    intro budget result hresult hback
    rw [hback.held_eq_none hmode] at hresult
    cases hresult
  refine ⟨⟨?_, ?_⟩, ?_, ?_⟩
  · rintro ⟨budget, result, hresult⟩
    exact hback budget result hresult
  · intro h
    obtain ⟨result, hresult⟩ := hend h
    exact ⟨_, result, hresult⟩
  · intro budget result hresult
    obtain ⟨result', hresult'⟩ := hend (hback budget result hresult)
    -- one of the two budgets is the larger, and both listings end in it
    have hlarger := held_mono hresult (Nat.le_max_left budget (S.card + 1 + plan.retryMax))
    rw [held_mono hresult' (Nat.le_max_right _ _)] at hlarger
    rw [hresult', hlarger]
  · intro k m page hplace hpage htruncated hstalled
    exact held_begin_of_stalled hmode hplace hpage htruncated hstalled

/-- A server of two pages, each of which names the next, and then fails. -/
def breakingOff (q : Query) : Except Fault (Chunk String) :=
  match q.get? "key-marker" with
  | none => .ok { truncated := true, next := { primary := some "a" } }
  | some "a" => .ok { truncated := true, next := { primary := some "b" } }
  | some _ => .error (.transport .connectionReset)

theorem ending_of_breakingOff :
    held { kind := .versions, retryMax := 2 } breakingOff 5
        (begin { kind := .versions, retryMax := 2 }) =
      some (.error (.transport .connectionReset)) ∧
    (∀ q page, breakingOff q = .ok page → page.truncated = true →
      page.next ∈ ({{ primary := some "a" }, { primary := some "b" }} : Finset Markers)) ∧
    Ending { kind := .versions, retryMax := 2 } breakingOff 5 := by
  have hmarkers : ∀ q page, breakingOff q = .ok page → page.truncated = true →
      page.next ∈ ({{ primary := some "a" }, { primary := some "b" }} : Finset Markers) := by
    intro q page hpage _
    unfold breakingOff at hpage
    split at hpage
    · cases hpage
      decide
    · cases hpage
      decide
    · cases hpage
  exact ⟨rfl, hmarkers, ending_of_finite rfl _ hmarkers⟩

/-- A server of two pages that name each other. -/
def circling (q : Query) : Except Fault (Chunk String) :=
  .ok { truncated := true,
        next := { primary := if q.get? "key-marker" = some "a" then some "b" else some "a" } }

/-- A listing that goes from `a` to `b` and back does not end. -/
theorem held_circling_eq_none :
    (∀ q page, circling q = .ok page →
      page.next ∈ ({{ primary := some "a" }, { primary := some "b" }} : Finset Markers)) ∧
    ∀ budget, held { kind := .versions } circling budget (begin { kind := .versions }) = none := by
  constructor
  · intro q page hpage
    cases hpage
    simp only
    split
    · decide
    · decide
  · refine ComesBack.held_eq_none rfl ⟨1, 3, { primary := some "a" }, by decide, ?_, ?_⟩
    · decide +kernel
    · decide +kernel

end ObjectStore.Listing.Plan
