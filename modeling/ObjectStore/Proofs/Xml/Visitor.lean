import ObjectStore.Bucket.Lifecycle
import ObjectStore.Bucket.Notification
import ObjectStore.Bucket.Settings
import ObjectStore.Listing.Objects
import ObjectStore.Listing.Uploads
import ObjectStore.Object.Deletion
import ObjectStore.Upload.Documents
/-!
# Readers of documents

Each answer of the service has a reader of its own (`IsReader` lists them), and all of them read
in one way: they visit the nodes of the document from left to right, take no notice of elements
that they do not know, and then make a value of what was collected and of the name of the first
element (`IsReader.exists_visitor`).  What holds of that way of reading therefore holds of every
reader; the first such fact is that nothing is read from a document without an element
(`Visitor.exists_fault`).
-/

namespace ObjectStore.Xml

theorem exists_of_bind_eq_ok {ε α β : Type} {x : Except ε α} {next : α → Except ε β} {b : β}
    (h : x >>= next = .ok b) : ∃ a, x = .ok a ∧ next a = .ok b := by
  rcases x with f | a
  · cases h
  · exact ⟨a, rfl, h⟩

theorem foldlM_keeps {σ : Type} {P : σ → Prop} {visit : σ → Node → Except Fault σ}
    (hvisit : ∀ x node x', visit x node = .ok x' → P x → P x') {nodes : List Node} {x x' : σ}
    (h : nodes.foldlM visit x = .ok x') (hx : P x) : P x' := by
  induction nodes generalizing x with
  | nil =>
    cases h
    exact hx
  | cons node nodes ih =>
    rw [List.foldlM_cons] at h
    obtain ⟨next, hnode, hrest⟩ := exists_of_bind_eq_ok h
    exact ih hrest (hvisit x node next hnode hx)

/-- What every node keeps holds of all that is collected. -/
theorem readDocument_keeps {σ : Type} {P : σ → Prop} {visit : σ → Node → Except Fault σ}
    (hvisit : ∀ x node x', visit x node = .ok x' → P x → P x') {expected : String} {start x : σ}
    (hstart : P start) {s : Bytes} (h : readDocument expected visit start s = .ok x) : P x := by
  rw [readDocument] at h
  obtain ⟨⟨result, root⟩, hread, h⟩ := exists_of_bind_eq_ok h
  obtain ⟨_, _, h⟩ := exists_of_bind_eq_ok h
  rw [Document.visit] at hread
  obtain ⟨result', hfold, hread⟩ := exists_of_bind_eq_ok hread
  obtain ⟨_, _, hread⟩ := exists_of_bind_eq_ok hread
  cases hread
  cases h
  exact foldlM_keeps hvisit hfold hstart

/-- How a reader reads: what it makes of each node, and of the whole with the name of its first
element.  Where there is no element it fails. -/
structure Visitor (α : Type) where
  State : Type
  start : State
  visit : State → Node → Except Fault State
  finish : State → Option String → Except Fault α
  rooted : ∀ x, ∃ f, finish x none = .error f

namespace Visitor

variable {α : Type}

/-- What is made of a document. -/
def readDocument (v : Visitor α) (d : Document) : Except Fault α := do
  let (x, root) ← d.visit v.visit v.start
  v.finish x root

def read (v : Visitor α) (s : Bytes) : Except Fault α := v.readDocument (Document.ofBytes s)

/-- Nothing is read from a document that is not read to its end or has no element. -/
theorem exists_fault (v : Visitor α) {d : Document} (h : ∀ name, d.root ≠ .ok (some name)) :
    ∃ f, v.readDocument d = .error f := by
  obtain ⟨nodes, root⟩ := d
  rw [readDocument, Document.visit]
  rcases nodes.foldlM v.visit v.start with f | x
  · exact ⟨f, rfl⟩
  · rcases root with f | _ | name
    · exact ⟨f, rfl⟩
    · exact v.rooted x
    · exact absurd rfl (h name)

/-- Whether the visitor passes over the elements of a name. -/
def Ignores (v : Visitor α) (name : String) : Prop :=
  ∀ x, v.visit x (.opened name) = .ok x ∧ ∀ text, v.visit x (.closed name text) = .ok x

/-- The reader of a document with the given first element. -/
def ofRoot {σ : Type} (expected : String) (visit : σ → Node → Except Fault σ) (start : σ)
    (value : σ → Except Fault α) : Visitor α where
  State := σ
  start := start
  visit := visit
  finish x root := expectRoot root expected >>= fun _ => value x
  rooted _ := ⟨.noRoot expected, rfl⟩

theorem read_ofRoot {σ : Type} (expected : String) (visit : σ → Node → Except Fault σ) (start : σ)
    (value : σ → Except Fault α) (s : Bytes) :
    (ofRoot expected visit start value).read s =
      (Xml.readDocument expected visit start s >>= value) := by
  show ((Document.ofBytes s).visit visit start >>= _) = _
  rw [Xml.readDocument]
  rcases (Document.ofBytes s).visit visit start with f | ⟨x, root⟩
  · rfl
  · show (expectRoot root expected >>= fun _ => value x) =
      ((expectRoot root expected >>= fun _ => pure x) >>= value)
    rcases expectRoot root expected with f | _
    · rfl
    · rfl

/-- The reader of a document whose first element is either the expected one or an error. -/
def ofOutcome (expected : String) (close : α → String → String → Option α) (start : α) :
    Visitor (Outcome α) where
  State := α × ServiceFailure
  start := (start, { status := 200 })
  visit p
    | .closed name text =>
      match close p.1 name text with
      | some value => .ok (value, p.2)
      | none => .ok (p.1, p.2.close name text)
    | .opened _ => .ok p
  finish p root :=
    if root = some "Error" then .ok (.failed p.2)
    else expectRoot root expected >>= fun _ => .ok (.success p.1)
  rooted _ := ⟨.noRoot expected, rfl⟩

theorem read_ofOutcome (expected : String) (close : α → String → String → Option α) (start : α)
    (s : Bytes) : (ofOutcome expected close start).read s = Outcome.read expected close start s :=
  rfl

end Visitor

/-- The readers of what the service answers. -/
inductive IsReader : {α : Type} → (Bytes → Except Fault α) → Prop
  | objects : IsReader Listing.ObjectsPage.read
  | versions : IsReader Listing.VersionsPage.read
  | uploads : IsReader Listing.UploadsPage.read
  | parts : IsReader Listing.PartsPage.read
  | initiation : IsReader readUploadId
  | completion : IsReader Completion.read
  | copy (expected : String) : IsReader (CopyResult.read expected)
  | failure (status : Nat) : IsReader (ServiceFailure.read status)
  | versioning : IsReader VersioningStatus.read
  | lifecycle : IsReader LifecycleConfig.read
  | acceleration : IsReader Acceleration.read
  | notification : IsReader NotificationConfig.read
  | requestPayment : IsReader RequestPayment.read
  | location : IsReader readLocation
  | deletion : IsReader DeletionResult.read

/-- A name that no reader knows. -/
def stranger : String := "Unknown"

section

variable {α σ : Type} {read : Bytes → Except Fault α}

theorem exists_ofRoot (expected : String) (visit : σ → Node → Except Fault σ) (start : σ)
    (value : σ → Except Fault α)
    (hread : ∀ s, read s = readDocument expected visit start s >>= value)
    (hopened : ∀ x, visit x (.opened stranger) = .ok x)
    (hclosed : ∀ x text, visit x (.closed stranger text) = .ok x) :
    ∃ v : Visitor α, (∀ s, read s = v.read s) ∧ v.Ignores stranger := by
  refine ⟨.ofRoot expected visit start value, fun s => ?_, fun x => ⟨hopened x, hclosed x⟩⟩
  rw [hread, Visitor.read_ofRoot]

theorem exists_ofCollected (expected : String) (visit : α → Node → Except Fault α) (start : α)
    (hread : ∀ s, read s = readDocument expected visit start s)
    (hopened : ∀ x, visit x (.opened stranger) = .ok x)
    (hclosed : ∀ x text, visit x (.closed stranger text) = .ok x) :
    ∃ v : Visitor α, (∀ s, read s = v.read s) ∧ v.Ignores stranger :=
  exists_ofRoot expected visit start pure (fun s => (hread s).trans (bind_pure _).symm) hopened
    hclosed

end

/-! ### What is made of a stranger

Most visitors read its name alone.  The others first look where they are, and nowhere do they know
the name. -/

section

open Listing

theorem visit_closed_stranger_versions (p : VersionsPage.Progress) (text : String) :
    VersionsPage.visit p (.closed stranger text) = .ok p := by
  obtain ⟨chunk, current, owner, inCommonPrefixes⟩ := p
  cases owner with
  | some person => rfl
  | none =>
    cases current with
    | some v => rfl
    | none => rfl

theorem visit_closed_stranger_uploads (p : UploadsPage.Progress) (text : String) :
    UploadsPage.visit p (.closed stranger text) = .ok p := by
  obtain ⟨chunk, bucket, current, person, inCommonPrefixes⟩ := p
  cases person with
  | some person => rfl
  | none =>
    cases current with
    | some u => rfl
    | none => rfl

theorem visit_closed_stranger_parts (p : PartsPage.Progress) (text : String) :
    PartsPage.visit p (.closed stranger text) = .ok p := by
  obtain ⟨chunk, current⟩ := p
  cases current with
  | some part => rfl
  | none => rfl

theorem visit_closed_stranger_lifecycle (p : LifecycleConfig.Progress) (text : String) :
    LifecycleConfig.visit p (.closed stranger text) = .ok p := by
  obtain ⟨config, rule, part, time, storageClass⟩ := p
  cases rule with
  | some r => rfl
  | none => rfl

theorem visit_closed_stranger_notification (p : NotificationConfig.Progress) (text : String) :
    NotificationConfig.visit p (.closed stranger text) = .ok p := by
  obtain ⟨config, current⟩ := p
  cases current with
  | none => rfl
  | some d =>
    obtain ⟨target, id, arn, events⟩ := d
    cases target with
    | topic => rfl
    | queue => rfl
    | function => rfl

theorem visit_closed_stranger_deletion (p : DeletionResult.Progress) (text : String) :
    DeletionResult.visit p (.closed stranger text) = .ok p := by
  obtain ⟨result, deleted, error⟩ := p
  cases deleted with
  | some d => rfl
  | none =>
    cases error with
    | some e => rfl
    | none => rfl

end

theorem exists_ofOutcome {α : Type} (expected : String) (close : α → String → String → Option α)
    (start : α) (hclose : ∀ value text, close value stranger text = none) :
    ∃ v : Visitor (Outcome α), (∀ s, Outcome.read expected close start s = v.read s) ∧
      v.Ignores stranger := by
  refine ⟨.ofOutcome expected close start,
    fun s => (Visitor.read_ofOutcome expected close start s).symm, fun p => ⟨rfl, fun text => ?_⟩⟩
  simp only [Visitor.ofOutcome, hclose]
  rfl

/-- **All readers read in one way.** -/
theorem IsReader.exists_visitor {α : Type} {read : Bytes → Except Fault α} (h : IsReader read) :
    ∃ v : Visitor α, (∀ s, read s = v.read s) ∧ v.Ignores stranger := by
  cases h with
  | objects => exact exists_ofRoot _ _ _ _ (fun _ => rfl) (fun _ => rfl) fun _ _ => rfl
  | versions =>
    exact exists_ofRoot _ _ _ _ (fun _ => rfl) (fun _ => rfl) visit_closed_stranger_versions
  | uploads =>
    exact exists_ofRoot _ _ _ _ (fun _ => rfl) (fun _ => rfl) visit_closed_stranger_uploads
  | parts => exact exists_ofRoot _ _ _ _ (fun _ => rfl) (fun _ => rfl) visit_closed_stranger_parts
  | initiation => exact exists_ofRoot _ _ _ _ (fun _ => rfl) (fun _ => rfl) fun _ _ => rfl
  | completion => exact exists_ofOutcome _ _ _ fun _ _ => rfl
  | copy expected => exact exists_ofOutcome expected _ _ fun _ _ => rfl
  | failure status => exact exists_ofRoot _ _ _ _ (fun _ => rfl) (fun _ => rfl) fun _ _ => rfl
  | versioning => exact exists_ofCollected _ _ _ (fun _ => rfl) (fun _ => rfl) fun _ _ => rfl
  | lifecycle =>
    exact exists_ofRoot _ _ _ _ (fun _ => rfl) (fun _ => rfl) visit_closed_stranger_lifecycle
  | acceleration => exact exists_ofCollected _ _ _ (fun _ => rfl) (fun _ => rfl) fun _ _ => rfl
  | notification =>
    exact exists_ofRoot _ _ _ _ (fun _ => rfl) (fun _ => rfl) visit_closed_stranger_notification
  | requestPayment => exact exists_ofRoot _ _ _ _ (fun _ => rfl) (fun _ => rfl) fun _ _ => rfl
  | location => exact exists_ofCollected _ _ _ (fun _ => rfl) (fun _ => rfl) fun _ _ => rfl
  | deletion =>
    exact exists_ofRoot _ _ _ _ (fun _ => rfl) (fun _ => rfl) visit_closed_stranger_deletion

end ObjectStore.Xml
