import ObjectStore.Listing.Pager
/-!
# A listing chunk by chunk

A caller that does not want a whole listing at once asks for one chunk, goes on at the markers
that the chunk ends with, and stops at the first chunk that is not truncated.
`Plan.chunkwise` is that caller.

**The caller sees what the pager sees:** `replay_merging_eq_chunkwise` says that against the
same answers both send the same queries, leave the same answers over and come to the same end.
The link is `replay_merging`, which cuts a merging run at the page where a run in chunks stops:
up to there the two pagers differ in what they have put together and in nothing else.
-/

namespace ObjectStore.Listing

variable {α : Type}

/-- Two chunks as one.  It is not truncated, and nothing follows it. -/
def Chunk.append (a b : Chunk α) : Chunk α :=
  { items := a.items ++ b.items, commonPrefixes := a.commonPrefixes ++ b.commonPrefixes }

/-- Chunks as one, in their order. -/
def Chunk.joined (chunks : List (Chunk α)) : Chunk α :=
  { items := chunks.flatMap Chunk.items, commonPrefixes := chunks.flatMap Chunk.commonPrefixes }

theorem Chunk.append_joined_singleton (a b : Chunk α) : a.append (joined [b]) = a.append b := by
  simp only [append, joined, List.flatMap_cons, List.flatMap_nil, List.append_nil]

theorem Chunk.append_joined_cons (a b : Chunk α) (chunks : List (Chunk α)) :
    a.append (joined (b :: chunks)) = (a.append b).append (joined chunks) := by
  simp only [append, joined, List.flatMap_cons, List.append_assoc]

namespace Plan

/-- The plan asked for in a mode and from the given markers on. -/
def asked (plan : Plan) (mode : Mode) (m : Markers) : Plan :=
  { plan with mode, start := { plan.start with markers := m } }

/-! ### One answer -/

/-- What a pager at `m` does with an answer.  The mode decides only what becomes of a page that
breaks no rule; where the plan starts and what has been put together decide nothing. -/
inductive Received (plan : Plan) (m : Markers) (retry : Retry) : Except Fault (Chunk α) → Prop where
  | again (f : Fault) (htransient : f.isTransient = true) (hcap : retry.attempts < retry.max)
      (h : ∀ mode start (merged : Chunk α),
        (plan.asked mode start).receive ⟨m, retry, merged⟩ (.error f) =
          .goOn ⟨m, { retry with attempts := retry.attempts + 1 }, merged⟩) :
      Received plan m retry (.error f)
  | failed (f : Fault) (hcap : f.isTransient = true → retry.max ≤ retry.attempts)
      (h : ∀ mode start (merged : Chunk α),
        (plan.asked mode start).receive ⟨m, retry, merged⟩ (.error f) = .finish (.error f)) :
      Received plan m retry (.error f)
  | violated (page : Chunk α) (v : Violation) (hv : plan.violation? ⟨m, retry, {}⟩ page = some v)
      (h : ∀ mode start (merged : Chunk α),
        (plan.asked mode start).receive ⟨m, retry, merged⟩ (.ok page) =
          .finish (.error (.protocol plan.context v))) :
      Received plan m retry (.ok page)
  | page (page : Chunk α) (hv : plan.violation? ⟨m, retry, {}⟩ page = none)
      (hchunk : ∀ start (merged : Chunk α),
        (plan.asked .chunk start).receive ⟨m, retry, merged⟩ (.ok page) = .finish (.ok page))
      (hmerge : ∀ start (merged : Chunk α),
        (plan.asked .merge start).receive ⟨m, retry, merged⟩ (.ok page) =
          if page.truncated then .goOn ⟨page.next, retry.reset, merged.append page⟩
          else .finish (.ok (merged.append page))) :
      Received plan m retry (.ok page)

theorem received (plan : Plan) (m : Markers) (retry : Retry) (r : Except Fault (Chunk α)) :
    plan.Received m retry r := by
  cases r with
  | ok page =>
    -- the rule that a page breaks is the same for every mode, start and merged chunk
    have hsame : ∀ mode start merged,
        (plan.asked mode start).violation? ⟨m, retry, merged⟩ page =
          plan.violation? ⟨m, retry, {}⟩ page := fun _ _ _ => rfl
    rcases hv : plan.violation? ⟨m, retry, {}⟩ page with _ | v
    · refine .page page hv (fun start merged => ?_) (fun start merged => ?_)
      · simp only [receive, receivePage, hsame, hv]
        rfl
      · simp only [receive, receivePage, hsame, hv]
        rfl
    · refine .violated page v hv fun mode start merged => ?_
      simp only [receive, receivePage, hsame, hv]
      rfl
  | error f =>
    by_cases ht : f.isTransient
    · by_cases hcap : retry.attempts < retry.max
      · refine .again f ht hcap fun mode start merged => ?_
        simp only [receive, ht, Retry.fail, if_pos hcap, if_true]
      · refine .failed f (fun _ => Nat.le_of_not_lt hcap) fun mode start merged => ?_
        simp only [receive, ht, Retry.fail, if_neg hcap, if_true]
    · refine .failed f (fun h => absurd h ht) fun mode start merged => ?_
      simp only [receive, if_neg ht]

/-! ### One chunk -/

theorem replay_of_goOn {plan : Plan} {p p' : Pager α} {r : Except Fault (Chunk α)}
    (h : plan.receive p r = .goOn p') (rs : List (Except Fault (Chunk α))) :
    plan.replay p (r :: rs) =
      (plan.query p :: (plan.replay p' rs).1, (plan.replay p' rs).2) := by
  simp only [replay, h]

theorem replay_of_finish {plan : Plan} {p : Pager α} {r result : Except Fault (Chunk α)}
    (h : plan.receive p r = .finish result) (rs : List (Except Fault (Chunk α))) :
    plan.replay p (r :: rs) = ([plan.query p], rs, some result) := by
  simp only [replay, h]

/-- Held against fewer answers than its budget, the dialogue of a listing is its replay. -/
theorem replay_dialogue (plan : Plan) {budget : Nat} (p : Pager α)
    {answers : List (Except Fault (Chunk α))} (h : answers.length < budget) :
    (plan.dialogue budget p).replay answers = plan.replay p answers := by
  induction budget generalizing p answers with
  | zero => exact absurd h (Nat.not_lt_zero _)
  | succ n ih =>
    cases answers with
    | nil => rfl
    | cons r rs =>
      have hlt : rs.length < n := Nat.lt_of_succ_lt_succ h
      simp only [dialogue, Dialogue.replay]
      rcases hr : plan.receive p r with p' | result
      · rw [replay_of_goOn hr]
        simp only [ih p' hlt]
      · rw [replay_of_finish hr]
        rfl

/-- A run that comes to an end uses at least one answer. -/
theorem length_rest_lt {plan : Plan} {answers : List (Except Fault (Chunk α))} {p : Pager α}
    {result : Except Fault (Chunk α)} (h : (plan.replay p answers).2.2 = some result) :
    (plan.replay p answers).2.1.length < answers.length := by
  induction answers generalizing p with
  | nil => cases h
  | cons r rs ih =>
    rcases hr : plan.receive p r with p' | result'
    · rw [replay_of_goOn hr] at h ⊢
      exact Nat.lt_succ_of_lt (ih h)
    · rw [replay_of_finish hr]
      exact Nat.lt_succ_self _

/-- How a pager that merges goes on when a run in chunks has stopped: behind a truncated chunk
with a fresh count of faults, and not at all behind the last chunk or a failure. -/
def afterChunk (plan : Plan) (start : Markers) (merged : Chunk α) :
    List Query × List (Except Fault (Chunk α)) × Option (Except Fault (Chunk α)) →
      List Query × List (Except Fault (Chunk α)) × Option (Except Fault (Chunk α))
  | (queries, rest, some (.ok chunk)) =>
    if chunk.truncated then
      let more := (plan.asked .merge start).replay
        ⟨chunk.next, { max := plan.retryMax }, merged.append chunk⟩ rest
      (queries ++ more.1, more.2)
    else (queries, rest, some (.ok (merged.append chunk)))
  | stopped => stopped

theorem afterChunk_cons (plan : Plan) (start : Markers) (merged : Chunk α) (q : Query)
    (run : List Query × List (Except Fault (Chunk α)) × Option (Except Fault (Chunk α))) :
    plan.afterChunk start merged (q :: run.1, run.2) =
      (q :: (plan.afterChunk start merged run).1, (plan.afterChunk start merged run).2) := by
  obtain ⟨queries, rest, result⟩ := run
  rcases result with _ | f | chunk
  · rfl
  · rfl
  · by_cases ht : chunk.truncated
    · simp only [afterChunk, if_pos ht, List.cons_append]
    · simp only [afterChunk, if_neg ht]

/-- **A merging run is a run to the first chunk and a merging run behind it.** -/
theorem replay_merging (plan : Plan) (s₁ s₂ m : Markers) (retry : Retry)
    (hretry : retry.max = plan.retryMax) (a b : Chunk α)
    (answers : List (Except Fault (Chunk α))) :
    (plan.asked .merge s₁).replay ⟨m, retry, a⟩ answers =
      plan.afterChunk s₁ a ((plan.asked .chunk s₂).replay ⟨m, retry, b⟩ answers) := by
  induction answers generalizing retry with
  | nil => rfl
  | cons r rs ih =>
    cases plan.received m retry r with
    | again f _ _ h =>
      have hrest := ih { retry with attempts := retry.attempts + 1 } hretry
      rw [replay_of_goOn (h _ _ _), replay_of_goOn (h _ _ _), afterChunk_cons, hrest]
      rfl
    | failed f _ h => rw [replay_of_finish (h _ _ _), replay_of_finish (h _ _ _)]; rfl
    | violated page v _ h => rw [replay_of_finish (h _ _ _), replay_of_finish (h _ _ _)]; rfl
    | page page _ hchunk hmerge =>
      rw [replay_of_finish (hchunk _ _)]
      by_cases ht : page.truncated
      · have hgo := (hmerge s₁ a).trans (if_pos ht)
        rw [replay_of_goOn hgo]
        simp only [afterChunk, if_pos ht, Retry.reset, hretry]
        rfl
      · have hstop := (hmerge s₁ a).trans (if_neg ht)
        rw [replay_of_finish hstop]
        simp only [afterChunk, if_neg ht]
        rfl

/-! ### The caller's loop -/

/-- Ask for chunks from the given markers on until one is not truncated: the queries sent, the
answers left over, and the chunks or the first failure if it came to that. -/
def chunkwise (plan : Plan) (m : Markers) (answers : List (Except Fault (Chunk α))) :
    List Query × List (Except Fault (Chunk α)) × Option (Except Fault (List (Chunk α))) :=
  match _h : (plan.asked .chunk m).replay (plan.asked .chunk m).begin answers with
  | (queries, rest, some (.ok chunk)) =>
    if chunk.truncated then
      let more := plan.chunkwise chunk.next rest
      (queries ++ more.1, more.2.1, more.2.2.map (Except.map (chunk :: ·)))
    else (queries, rest, some (.ok [chunk]))
  | (queries, rest, some (.error f)) => (queries, rest, some (.error f))
  | (queries, rest, none) => (queries, rest, none)
  termination_by answers.length
  decreasing_by
    have hlt := length_rest_lt (congrArg (·.2.2) _h)
    rwa [_h] at hlt

/-- What the pager that merges makes of the chunks that the caller has. -/
def mergedRun (merged : Chunk α)
    (loop : List Query × List (Except Fault (Chunk α)) × Option (Except Fault (List (Chunk α)))) :
    List Query × List (Except Fault (Chunk α)) × Option (Except Fault (Chunk α)) :=
  (loop.1, loop.2.1, loop.2.2.map (Except.map fun chunks => merged.append (Chunk.joined chunks)))

theorem replay_eq_mergedRun (plan : Plan) (start m : Markers) (merged : Chunk α)
    (answers : List (Except Fault (Chunk α))) :
    (plan.asked .merge start).replay ⟨m, { max := plan.retryMax }, merged⟩ answers =
      mergedRun merged (plan.chunkwise m answers) := by
  induction hn : answers.length using Nat.strongRecOn generalizing m merged answers with
  | _ n ih =>
    have hcut := plan.replay_merging start m m { max := plan.retryMax } rfl merged {} answers
    change _ = plan.afterChunk start merged
      ((plan.asked .chunk m).replay (plan.asked .chunk m).begin answers) at hcut
    rw [hcut, chunkwise]
    -- both sides stop where the run to the first chunk stops
    split
    · next queries rest chunk hrun =>
      rw [hrun]
      by_cases ht : chunk.truncated
      · have hlt := length_rest_lt (congrArg (·.2.2) hrun)
        rw [hrun, hn] at hlt
        have hrest := ih rest.length hlt chunk.next (merged.append chunk) rest rfl
        simp only [afterChunk, if_pos ht, hrest, mergedRun]
        rcases (plan.chunkwise chunk.next rest).2.2 with _ | f | chunks
        · rfl
        · rfl
        · simp only [Option.map_some, Except.map, Chunk.append_joined_cons]
      · simp only [afterChunk, if_neg ht, mergedRun, Option.map_some, Except.map,
          Chunk.append_joined_singleton]
    · next queries rest f hrun => rw [hrun]; rfl
    · next queries rest hrun => rw [hrun]; rfl

/-- **A merging run is the caller's loop.** Against the same answers both send the same queries
and leave the same answers over.  The listing has an end exactly when the loop has one: the same
failure, or the chunks put together in order, not truncated and without markers. -/
theorem replay_merging_eq_chunkwise (plan : Plan) (answers : List (Except Fault (Chunk α))) :
    let whole := Plan.replay { plan with mode := .merge } plan.begin answers
    let loop := plan.chunkwise plan.start.markers answers
    whole.1 = loop.1 ∧ whole.2.1 = loop.2.1 ∧
      (whole.2.2 = none ↔ loop.2.2 = none) ∧
      (∀ f, whole.2.2 = some (.error f) ↔ loop.2.2 = some (.error f)) ∧
      (∀ chunks, loop.2.2 = some (.ok chunks) → whole.2.2 = some (.ok (Chunk.joined chunks))) ∧
      (∀ listing, whole.2.2 = some (.ok listing) →
        listing.truncated = false ∧ listing.next = {} ∧
          ∃ chunks, loop.2.2 = some (.ok chunks) ∧
            listing.items = chunks.flatMap Chunk.items ∧
            listing.commonPrefixes = chunks.flatMap Chunk.commonPrefixes) := by
  intro whole loop
  have hwhole : whole = mergedRun {} loop :=
    plan.replay_eq_mergedRun plan.start.markers plan.start.markers {} answers
  rw [hwhole]
  refine ⟨rfl, rfl, ?_⟩
  rcases hloop : loop.2.2 with _ | f | chunks
  · simp [mergedRun, hloop]
  · simp [mergedRun, hloop, Except.map]
  · simp [mergedRun, hloop, Except.map, Chunk.append, Chunk.joined]

end Plan

end ObjectStore.Listing
