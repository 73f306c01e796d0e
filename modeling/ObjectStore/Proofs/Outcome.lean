import ObjectStore.Proofs.Lists
import ObjectStore.Proofs.Upload.Requests
import ObjectStore.Proofs.Xml.Layout
import ObjectStore.Proofs.Xml.Visitor
/-!
# What a body makes of a success status

A copy and a completion are answered with a document that may be an error although the status
says success.  One visitor collects the fields of the result and of an error side by side, and
only the name of the first element tells which of them count.  `Judged` says what the operation
comes to, with one case for each kind of body.

**The body decides** (`Client.ConfirmedByBody.judged`): the operation succeeds only with a
document of its own kind that was read to its end, an error document is reported with what its
last elements say, whatever else stands in it, and anything else is a body that cannot be read.
-/

namespace ObjectStore

namespace Xml

/-! ### The last element of a name -/

/-- The text of the element of the name that ends at the node. -/
def Node.textOf? (name : String) : Node → Option String
  | .opened _ => none
  | .closed other text => if other = name then some text else none

def lastText? (name : String) (nodes : List Node) : Option String :=
  lastOf (Node.textOf? name) nodes

/-- A field that the elements of one name alone can change is what the last of them makes it. -/
theorem foldl_last {σ β : Type} {step : σ → Node → σ} (field : σ → β) {value : String → β}
    {name : String}
    (hstep : ∀ x n, field (step x n) = ((n.textOf? name).map value).getD (field x))
    (nodes : List Node) (x : σ) :
    field (nodes.foldl step x) = ((lastText? name nodes).map value).getD (field x) := by
  induction nodes generalizing x with
  | nil => rfl
  | cons n nodes ih =>
    rw [List.foldl_cons, ih, hstep, lastText?, lastText?, lastOf_cons, Option.map_or,
      Option.getD_or]

end Xml

open Xml

/-! ### The fields of a failure -/

namespace ServiceFailure

variable (f : ServiceFailure) (name text : String)

theorem code_close :
    (f.close name text).code = ((Node.closed name text).textOf? "Code").getD f.code := by
  unfold close
  split
  · rfl
  · rfl
  · rfl
  · rfl
  · rfl
  · next hcode _ _ _ _ =>
    simp only [Node.textOf?, if_neg hcode]
    rfl

theorem text_close :
    (f.close name text).text = ((Node.closed name text).textOf? "Message").getD f.text := by
  unfold close
  split
  · rfl
  · rfl
  · rfl
  · rfl
  · rfl
  · next _ hmessage _ _ _ =>
    simp only [Node.textOf?, if_neg hmessage]
    rfl

theorem status_close : (f.close name text).status = f.status := by
  unfold close
  split
  · rfl
  · rfl
  · rfl
  · rfl
  · rfl
  · rfl

end ServiceFailure

namespace Outcome

section

variable {α : Type} {close : α → String → String → Option α}

/-- What is collected at a node, for the result and for a failure. -/
def step (close : α → String → String → Option α) (p : α × ServiceFailure) :
    Node → α × ServiceFailure
  | .opened _ => p
  | .closed name text =>
    match close p.1 name text with
    | some value => (value, p.2)
    | none => (p.1, p.2.close name text)

def collected (close : α → String → String → Option α) (start : α) (nodes : List Node) :
    α × ServiceFailure :=
  nodes.foldl (step close) (start, { status := 200 })

/-- Everything is collected first, and then the first element decides. -/
theorem read_eq {expected : String} {start : α} {s : Bytes} {nodes : List Node}
    {root : Except Xml.Fault (Option String)} (h : Document.ofBytes s = ⟨nodes, root⟩) :
    Outcome.read expected close start s = root.bind fun first =>
      if first = some "Error" then .ok (.failed (collected close start nodes).2)
      else (expectRoot first expected).map fun _ => .success (collected close start nodes).1 := by
  have hfold : nodes.foldlM (Visitor.ofOutcome expected close start).visit
      (start, { status := 200 }) = .ok (collected close start nodes) := by
    have hvisit : (Visitor.ofOutcome expected close start).visit =
        fun p n => pure (step close p n) := by
      funext p n
      cases n with
      | opened name => rfl
      | closed name text =>
        simp only [Visitor.ofOutcome, step]
        rcases close p.1 name text with _ | value
        · rfl
        · rfl
    rw [hvisit]
    exact List.foldlM_pure
  rw [← Visitor.read_ofOutcome, Visitor.read, Visitor.readDocument, h, Document.visit]
  show (nodes.foldlM (Visitor.ofOutcome expected close start).visit
    (start, { status := 200 }) >>= _) >>= _ = _
  rw [hfold]
  rcases root with f | first
  · rfl
  · show (if first = some "Error" then _ else expectRoot first expected >>= fun _ => _) = _
    simp only [Except.bind]
    by_cases hfirst : first = some "Error"
    · rw [if_pos hfirst, if_pos hfirst]
    · rw [if_neg hfirst, if_neg hfirst]
      rcases expectRoot first expected with f | _
      · rfl
      · rfl

/-- A field of the failure is what the last element of its name says, unless the result has a
field of that name. -/
theorem failure_collected {field : ServiceFailure → String} {name : String}
    (hfield : ∀ f other text, field (f.close other text) =
      ((Node.closed other text).textOf? name).getD (field f))
    (hclose : ∀ value text, close value name text = none) (start : α) (nodes : List Node) :
    field (collected close start nodes).2 =
      (lastText? name nodes).getD (field { status := 200 }) := by
  have hstep : ∀ (p : α × ServiceFailure) n, field (step close p n).2 =
      ((n.textOf? name).map id).getD (field p.2) := by
    intro p n
    rw [Option.map_id]
    cases n with
    | opened other => rfl
    | closed other text =>
      rcases hresult : close p.1 other text with _ | value
      · simp only [step, hresult]
        exact hfield p.2 other text
      · -- the result has taken the element, so that it is not one of the failure's
        have hother : other ≠ name := by
          rintro rfl
          rw [hclose] at hresult
          cases hresult
        simp only [step, hresult, Node.textOf?, if_neg hother]
        rfl
  have hlast := foldl_last (fun p : α × ServiceFailure => field p.2) hstep nodes
    (start, { status := 200 })
  rw [Option.map_id] at hlast
  exact hlast

theorem status_collected (start : α) (nodes : List Node) :
    (collected close start nodes).2.status = 200 := by
  have hnodes : ∀ p : α × ServiceFailure, (nodes.foldl (step close) p).2.status = p.2.status := by
    induction nodes with
    | nil => exact fun _ => rfl
    | cons n nodes ih =>
      intro p
      rw [List.foldl_cons, ih]
      cases n with
      | opened name => rfl
      | closed name text =>
        rcases hresult : close p.1 name text with _ | value
        · simp only [step, hresult, ServiceFailure.status_close]
        · simp only [step, hresult]
  exact hnodes _

end

end Outcome

/-! ### What an operation comes to -/

/-- What an operation that reads a body of the shape comes to, by the body. -/
inductive Judged {α : Type} (shape : Shape) (context : Context) (failed : ServiceFailure → Fault)
    (body : Except InputFault Bytes) : Except Fault α → Prop
  | confirmed {content : Bytes} {nodes : List Node} (hbody : body = .ok content)
      (hdocument : Document.ofBytes content = ⟨nodes, .ok (some shape.name)⟩) (value : α) :
      Judged shape context failed body (.ok value)
  | reported {content : Bytes} {nodes : List Node} (hbody : body = .ok content)
      (hdocument : Document.ofBytes content = ⟨nodes, .ok (some "Error")⟩)
      {failure : ServiceFailure} (hstatus : failure.status = 200)
      (hcode : failure.code = (lastText? "Code" nodes).getD "")
      (htext : failure.text = (lastText? "Message" nodes).getD "")
      (hcontext : failure.context = context) :
      Judged shape context failed body (.error (failed failure))
  | broken {cause : InputFault} (hbody : body = .error cause) :
      Judged shape context failed body (.error (.parse shape context (.input cause)))
  | unfit {content : Bytes} (hbody : body = .ok content)
      (hshape : ∀ nodes, Document.ofBytes content ≠ ⟨nodes, .ok (some shape.name)⟩)
      (herror : ∀ nodes, Document.ofBytes content ≠ ⟨nodes, .ok (some "Error")⟩)
      (fault : Xml.Fault) :
      Judged shape context failed body (.error (.parse shape context (.malformed fault)))

namespace Client

section

variable {α β : Type} {shape : Shape} {context : Context} {failed : ServiceFailure → Fault}

def decided (context : Context) (failed : ServiceFailure → Fault) (value : β → α) :
    Outcome β → Except Fault α
  | .success result => .ok (value result)
  | .failed f => .error (failed { f with context := context })

theorem judged_decided (close : β → String → String → Option β)
    (hcode : ∀ value text, close value "Code" text = none)
    (hmessage : ∀ value text, close value "Message" text = none)
    (start : β) (value : β → α) (r : Http.Response) :
    Judged shape context failed r.body.collect
      ((readBody shape context (Outcome.read shape.name close start) r).bind
        (decided context failed value)) := by
  rw [readBody]
  rcases hbody : r.body.collect with cause | content
  · exact .broken rfl
  rcases hdocument : Document.ofBytes content with ⟨nodes, root⟩
  simp only [Outcome.read_eq hdocument]
  -- what was collected is only looked at when the name of the first element is known
  rcases root with fault | _ | name
  · exact .unfit rfl (by rw [hdocument]; simp) (by rw [hdocument]; simp) fault
  · exact .unfit rfl (by rw [hdocument]; simp) (by rw [hdocument]; simp) (.noRoot shape.name)
  · by_cases herror : name = "Error"
    · subst herror
      exact .reported rfl hdocument (Outcome.status_collected start nodes)
        (Outcome.failure_collected ServiceFailure.code_close hcode start nodes)
        (Outcome.failure_collected ServiceFailure.text_close hmessage start nodes) rfl
    · have hother : some name ≠ some "Error" := fun h => herror (Option.some.inj h)
      simp only [Except.bind, if_neg hother, expectRoot]
      by_cases hname : name = shape.name
      · subst hname
        rw [if_pos rfl]
        exact .confirmed rfl hdocument _
      · rw [if_neg hname]
        refine .unfit rfl ?_ ?_ (.wrongRoot shape.name name)
        · rw [hdocument]
          simp [hname]
        · rw [hdocument]
          simp [herror]

end

/-! ### Copies and completions -/

variable {c : Client} {u : Upload}

def partCopyDescriptor (c : Client) (u : Upload) (number : UInt32) (source : PartCopySource)
    (range : Option String) : Descriptor :=
  { method := .put, bucket := some u.bucket, key := some u.key, query := partQuery u number,
    metadata := c.partCopyMetadata source range }

def copiedPart (number : UInt32) (result : CopyResult) : Part :=
  { number, etag := result.etag, lastModified := result.lastModified }

theorem context_partCopyDescriptor (c : Client) (u : Upload) (number : UInt32)
    (source : PartCopySource) (range : Option String) :
    (c.partCopyDescriptor u number source range).context = uploadContext u := by
  show ({ bucket := some u.bucket, key := some u.key,
          uploadId := ((partQuery u number).parameters.get? "uploadId").join } : Context) = _
  rw [get?_partQuery]
  rfl

/-- What the copy of a part comes to, by the response. -/
def copiedBy (u : Upload) (number : UInt32) (r : Http.Response) : Except Fault Part :=
  (readBody .copyPart (uploadContext u) (CopyResult.read "CopyPartResult") r).bind
    (decided (uploadContext u) .service (copiedPart number))

theorem run_copyPart {number : UInt32} {source : PartCopySource} {range : Option String}
    (hnumber : checkPartNumber number = .ok ()) (hrange : source.rangeText = .ok range) :
    (c.copyPart u number source).run =
      .ask (c.sender.build c.now (c.partCopyDescriptor u number source range)) fun answer =>
        .done ((answer.bind (accept (c.partCopyDescriptor u number source range))).bind
          (copiedBy u number)) := by
  have hcontext := c.context_partCopyDescriptor u number source range
  have hfetch := run_fetch (c := c) (c.partCopyDescriptor u number source range) .copyPart
    (CopyResult.read "CopyPartResult")
  rw [hcontext] at hfetch
  simp only [copyPart, hnumber, hrange]
  refine (Operation.run_bind_of_exchange
    (g := decided (uploadContext u) .service (copiedPart number)) hfetch
    fun outcome => ?_).trans ?_
  · show (Operation.lift (succeed (c.partCopyDescriptor u number source range).context outcome)
      >>= fun result => pure (copiedPart number result)).run = _
    rw [hcontext]
    cases outcome with
    | success result => rfl
    | failed f => rfl
  · refine congrArg (Dialogue.ask _) (funext fun answer => ?_)
    rcases answer.bind (accept (c.partCopyDescriptor u number source range)) with f | r
    · rfl
    · rfl

/-- The copy of a part that sends a request has arguments that are not refused. -/
theorem run_copyPart_of_sent {number : UInt32} {source : PartCopySource} {q : Http.Request}
    {next : Except Fault Http.Response → Dialogue Http.Request (Except Fault Http.Response)
      (Except Fault Part)}
    (hsent : (c.copyPart u number source).run = .ask q next) :
    ∃ range, (c.copyPart u number source).run =
      .ask (c.sender.build c.now (c.partCopyDescriptor u number source range)) fun answer =>
        .done ((answer.bind (accept (c.partCopyDescriptor u number source range))).bind
          (copiedBy u number)) := by
  obtain ⟨_, hnumber, hrest⟩ := Operation.exists_ok_of_sent hsent
  obtain ⟨range, hrange, _⟩ := Operation.exists_ok_of_sent hrest
  exact ⟨range, run_copyPart hnumber hrange⟩

end Client

end ObjectStore
