import ObjectStore.Upload.Coordinator
/-!
# Entering and leaving

What a coordinator does when a call enters and when it leaves.  Calls enter at an open stage
only.  A call that closes the upload, by completing or aborting it, goes through a stage of
its own; leaving it puts the upload at its end or opens it again.
-/

namespace ObjectStore

/-- Whether the stage is that of a call which ends the upload when it succeeds. -/
def Stage.isClosing : Stage → Bool
  | .completing => true
  | .aborting => true
  | _ => false

/-- Whether the upload is at its end. -/
def Stage.isFinal : Stage → Bool
  | .completed => true
  | .aborted => true
  | _ => false

namespace Coordinator

/-- Whether a call ends the upload when it succeeds. -/
def Call.closes : Call → Bool
  | .uploadPart _ _ => false
  | .copyPart _ _ => false
  | .complete _ => true
  | .abort => true

/-- The stage at which a call leaves the upload if it ends it. -/
def Call.final? : Call → Option Stage
  | .uploadPart _ _ => none
  | .copyPart _ _ => none
  | .complete _ => some .completed
  | .abort => some .aborted

theorem Call.stage_eq_completing {call : Call} :
    call.stage = .completing ↔ ∃ parts, call = .complete parts := by
  cases call <;> simp [Call.stage]

theorem Call.stage_eq_aborting {call : Call} : call.stage = .aborting ↔ call = .abort := by
  cases call <;> simp [Call.stage]

theorem Call.final?_eq_completed {call : Call} :
    call.final? = some .completed ↔ ∃ parts, call = .complete parts := by
  cases call <;> simp [Call.final?]

theorem Call.final?_eq_aborted {call : Call} :
    call.final? = some .aborted ↔ call = .abort := by
  cases call <;> simp [Call.final?]

theorem Call.isClosing_stage (call : Call) : call.stage.isClosing = call.closes := by
  cases call <;> rfl

/-! ### Entering -/

theorem stage_of_enterStart {c : Coordinator} (h : c.enterStart = .ok ()) :
    c.stage = .notStarted := by
  unfold enterStart at h
  split at h
  · next hstage => exact hstage
  · cases h

theorem enter_eq_ok {c c' : Coordinator} {call : Call} {u : Upload} {previous : Stage}
    (h : c.enter call = .ok (u, previous, c')) :
    c.upload = some u ∧ c.stage.isOpen = true ∧ previous = c.stage ∧
      c' = { c with stage := call.stage } := by
  unfold enter at h
  split at h
  · next hu =>
    split at h
    · next hopen => cases h; exact ⟨hu, hopen, rfl, rfl⟩
    · cases h
  · cases h

/-- At a stage that is not open no call enters, and the fault says which stage it is. -/
theorem enter_of_not_open {c : Coordinator} (h : c.stage.isOpen = false) (call : Call) :
    c.enter call = .error (c.misplaced call.name) := by
  unfold enter
  split
  · rw [if_neg (by simp [h])]
  · rfl

theorem enter_of_open {c : Coordinator} {u : Upload} (hu : c.upload = some u)
    (hopen : c.stage.isOpen = true) (call : Call) :
    c.enter call = .ok (u, c.stage, { c with stage := call.stage }) := by
  simp only [enter, hu, hopen, if_true]

/-! ### Leaving -/

@[simp] theorem upload_leave (c : Coordinator) (call : Call) (previous : Stage) (succeeded : Bool) :
    (c.leave call previous succeeded).upload = c.upload := by
  cases call <;> rfl

/-- Only a call that may end the upload sets the stage when it leaves. -/
theorem leave_of_not_closes {call : Call} (h : call.closes = false) (c : Coordinator)
    (previous : Stage) (succeeded : Bool) : c.leave call previous succeeded = c := by
  cases call with
  | uploadPart => rfl
  | copyPart => rfl
  | complete => cases h
  | abort => cases h

/-- Once it has left, the upload is at its end if it succeeded, and open otherwise. -/
theorem stage_leave_of_closes {call : Call} {previous : Stage} (h : call.closes = true)
    (hprevious : previous.isOpen = true) (c : Coordinator) (succeeded : Bool) :
    (succeeded = true ∧ call.final? = some (c.leave call previous succeeded).stage) ∨
      (succeeded = false ∧ (c.leave call previous succeeded).stage.isOpen = true) := by
  cases call with
  | uploadPart => cases h
  | copyPart => cases h
  | complete => cases succeeded <;> simp [leave, Call.final?, Stage.isOpen]
  | abort => cases succeeded <;> simp [leave, Call.final?, hprevious]

theorem settled_of_isOpen {t : Stage} (h : t.isOpen = true) :
    t.isClosing = false ∧ t ≠ .notStarted := by
  cases t with
  | started => exact ⟨rfl, by decide⟩
  | uploading => exact ⟨rfl, by decide⟩
  | _ => cases h

theorem settled_of_final? {call : Call} {t : Stage} (h : call.final? = some t) :
    t.isClosing = false ∧ t ≠ .notStarted := by
  cases call with
  | uploadPart => cases h
  | copyPart => cases h
  | complete => cases h; exact ⟨rfl, by decide⟩
  | abort => cases h; exact ⟨rfl, by decide⟩

theorem ne_of_isFinal {t : Stage} (h : t.isFinal = true) :
    t ≠ .notStarted ∧ t ≠ .started ∧ t.isOpen = false ∧ ∀ call : Call, call.stage ≠ t := by
  cases t with
  | completed => exact ⟨by decide, by decide, rfl, fun call => by cases call <;> simp [Call.stage]⟩
  | aborted => exact ⟨by decide, by decide, rfl, fun call => by cases call <;> simp [Call.stage]⟩
  | _ => cases h

end Coordinator

end ObjectStore
