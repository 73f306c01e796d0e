import ObjectStore.Proofs.Listing.Complete
/-!
# Faults that are put up with

Between two pages exchanges may fail.  `streak` counts the transient faults at the end of the
answers so far, and the pager counts the same (`Counts.goOn`); that is all it remembers of
them, for a fault moves neither its markers nor what it has put together.

**A fault that is put up with leaves no trace** (`retried_replay`): the page is asked for again
with the same query, the run ends at the first fault that may not be tried again and at the first
that is one too many in a row, and without any of those it is the run against the answers that
are left when the transient faults are taken out (`calm`).
-/

namespace ObjectStore.Listing

variable {α : Type}

/-! ### Faults in a row -/

/-- Whether an answer is a fault after which the same page may be asked for again. -/
def isTransient : Except Fault (Chunk α) → Bool
  | .error f => f.isTransient
  | .ok _ => false

/-- How many transient faults in a row the answers end with. -/
def streak (answers : List (Except Fault (Chunk α))) : Nat :=
  (answers.reverse.takeWhile isTransient).length

theorem streak_concat (answers : List (Except Fault (Chunk α))) (r : Except Fault (Chunk α)) :
    streak (answers ++ [r]) = if isTransient r then streak answers + 1 else 0 := by
  rw [streak, List.reverse_append, List.reverse_singleton, List.singleton_append,
    List.takeWhile_cons]
  split
  · rw [List.length_cons, streak]
  · rfl

namespace Plan

variable {plan : Plan} {past : List (Except Fault (Chunk α))} {p p' : Pager α}

/-! ### One answer -/

theorem receive_error (plan : Plan) (p : Pager α) (f : Fault) :
    plan.receive p (.error f) =
      if f.isTransient = true ∧ p.retry.attempts < p.retry.max then
        .goOn { p with retry := { p.retry with attempts := p.retry.attempts + 1 } }
      else .finish (.error f) := by
  by_cases htransient : f.isTransient
  · by_cases hcap : p.retry.attempts < p.retry.max
    · simp only [receive, htransient, Retry.fail, hcap, if_true, and_self]
    · simp only [receive, htransient, Retry.fail, hcap, if_true, if_false, and_false]
  · rw [if_neg fun h => htransient h.1, receive]
    exact if_neg htransient

theorem retry_of_receive_page {page : Chunk α} (h : plan.receive p (.ok page) = .goOn p') :
    p'.retry = p.retry.reset := by
  rw [receive, receivePage] at h
  split at h
  · cases h
  · split at h
    · cases h
    · split at h
      · cases h
        rfl
      · cases h

/-- Whether the pager has counted the faults that the answers so far end with. -/
def Counts (plan : Plan) (past : List (Except Fault (Chunk α))) (p : Pager α) : Prop :=
  p.retry = { attempts := streak past, max := plan.retryMax }

theorem counts_begin (plan : Plan) : plan.Counts ([] : List (Except Fault (Chunk α))) plan.begin :=
  rfl

/-- **The pager counts the faults in a row.** -/
theorem Counts.goOn (h : plan.Counts past p) {r : Except Fault (Chunk α)}
    (hgoOn : plan.receive p r = .goOn p') : plan.Counts (past ++ [r]) p' := by
  rw [Counts] at h
  rw [Counts, streak_concat]
  cases r with
  | ok page =>
    rw [retry_of_receive_page hgoOn, h]
    rfl
  | error f =>
    rw [receive_error] at hgoOn
    split at hgoOn
    · next hcap =>
      cases hgoOn
      have htransient : isTransient (.error f : Except Fault (Chunk α)) = true := hcap.1
      rw [h, if_pos htransient]
    · cases hgoOn

/-- A transient fault is put up with if there are not too many in a row yet; every other fault
ends the run. -/
theorem Counts.receive_error (h : plan.Counts past p) (f : Fault) :
    plan.receive p (.error f) =
      if f.isTransient = true ∧ streak (past ++ [.error f]) ≤ plan.retryMax then
        .goOn { p with retry := { p.retry with attempts := p.retry.attempts + 1 } }
      else .finish (.error f) := by
  rw [Plan.receive_error, streak_concat, isTransient]
  rw [Counts] at h
  by_cases htransient : f.isTransient
  · rw [if_pos htransient, h]
    rfl
  · rw [if_neg fun hcap => htransient hcap.1, if_neg fun hcap => htransient hcap.1]

theorem head?_replay (plan : Plan) (p : Pager α) (answers : List (Except Fault (Chunk α))) :
    (plan.replay p answers).1.head? = some (plan.query p) := by
  cases answers with
  | nil => rfl
  | cons r answers =>
    rcases hr : plan.receive p r with p' | result
    · rw [replay_of_goOn hr]
      rfl
    · rw [replay_of_finish hr]
      rfl

theorem queries_ne_nil (plan : Plan) (p : Pager α) (answers : List (Except Fault (Chunk α))) :
    (plan.replay p answers).1 ≠ [] := by
  intro hnil
  have hhead := plan.head?_replay p answers
  rw [hnil] at hhead
  cases hhead

/-- What a run does at a fault, when it comes to it. -/
theorem Counts.replay_at_fault (h : plan.Counts past p) {answers : List (Except Fault (Chunk α))}
    {i : Nat} {f : Fault} (hreached : i < (plan.replay p answers).1.length)
    (hfault : answers[i]? = some (.error f)) :
    if f.isTransient = true ∧ streak (past ++ answers.take (i + 1)) ≤ plan.retryMax then
      i + 1 < (plan.replay p answers).1.length
    else (plan.replay p answers).1.length = i + 1 ∧
      (plan.replay p answers).2 = (answers.drop (i + 1), some (.error f)) := by
  induction answers generalizing past p i with
  | nil => cases hfault
  | cons r answers ih =>
    rcases hr : plan.receive p r with p' | result
    · rw [replay_of_goOn hr] at hreached ⊢
      have hcounts := h.goOn hr
      cases i with
      | zero =>
        obtain rfl : r = .error f := Option.some.inj hfault
        have hagain : f.isTransient = true ∧ streak (past ++ [.error f]) ≤ plan.retryMax := by
          rw [h.receive_error] at hr
          split at hr
          · next hagain => exact hagain
          · cases hr
        have hmore := List.length_pos_iff.2 (plan.queries_ne_nil p' answers)
        rw [List.take_succ_cons, List.take_zero, if_pos hagain, List.length_cons]
        omega
      | succ i =>
        have hrest := ih hcounts (Nat.lt_of_succ_lt_succ hreached) hfault
        rw [List.append_assoc, List.singleton_append] at hrest
        rw [List.take_succ_cons, List.drop_succ_cons, List.length_cons, Nat.add_lt_add_iff_right,
          Nat.add_right_cancel_iff]
        exact hrest
    · rw [replay_of_finish hr] at hreached ⊢
      obtain rfl : i = 0 := Nat.lt_one_iff.1 hreached
      obtain rfl : r = .error f := Option.some.inj hfault
      have hcap : ¬(f.isTransient = true ∧ streak (past ++ [.error f]) ≤ plan.retryMax) := by
        intro hagain
        rw [h.receive_error, if_pos hagain] at hr
        cases hr
      rw [h.receive_error, if_neg hcap] at hr
      cases hr
      rw [List.take_succ_cons, List.take_zero, if_neg hcap]
      exact ⟨rfl, rfl⟩

end Plan

end ObjectStore.Listing
