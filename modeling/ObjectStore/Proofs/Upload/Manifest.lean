import ObjectStore.Proofs.Number
import ObjectStore.Proofs.Refusal
import ObjectStore.Proofs.Upload.Ordering
import ObjectStore.Proofs.Upload.Requests
import ObjectStore.Proofs.Xml.Layout
import ObjectStore.Proofs.Xml.Visitor
/-!
# The manifest of an upload

A manifest is read back part by part (`ofBytes_manifest`): the number of a part, and its entity tag
without the quotes around it, between two quotes.  Markup in an entity tag stays text.

**Parts are refused before anything is sent, or one request names them in order**
(`Client.completesInOrder_completeUpload`).
-/

namespace ObjectStore

open Xml

/-! ### What a manifest says -/

/-- `tag` is `bare` with quotes around it, as many as there can be. -/
structure Unquoted (tag bare : String) : Prop where
  around : ∃ first last : String, tag = first ++ bare ++ last ∧
    ∀ c ∈ (first ++ last).toList, c = '"'
  head : bare.toList.head? ≠ some '"'
  last : bare.toList.getLast? ≠ some '"'

theorem unquoted_trimQuotes (tag : String) : Unquoted tag (trimQuotes tag) := by
  obtain ⟨front, back, hfront, hback, htag⟩ := Text.exists_trimBoth (· = '"') tag.toList
  obtain ⟨hhead, hlast⟩ := Text.trimBoth_eq_self_iff.1 (Text.trimBoth_trimBoth (· = '"') tag.toList)
  constructor
  · refine ⟨String.ofList front, String.ofList back, ?_, ?_⟩
    · apply String.toList_inj.1
      simpa [trimQuotes] using htag
    · intro c hc
      rw [String.toList_append, String.toList_ofList, String.toList_ofList] at hc
      rcases List.mem_append.1 hc with hc | hc
      · exact of_decide_eq_true (hfront c hc)
      · exact of_decide_eq_true (hback c hc)
  · intro hquote
    rw [trimQuotes, String.toList_ofList] at hquote
    exact absurd (hhead _ hquote) (by decide)
  · intro hquote
    rw [trimQuotes, String.toList_ofList] at hquote
    exact absurd (hlast _ hquote) (by decide)

/-- What is met in a manifest where it names the part. -/
def Part.nodes (p : Part) : List Node :=
  [.opened "Part",
    .opened "PartNumber", .closed "PartNumber" (toString p.number.toNat),
    .opened "ETag", .closed "ETag" ("\"" ++ trimQuotes p.etag ++ "\""),
    .closed "Part" ""]

theorem Part.nodes_element (p : Part) : p.element.nodes = p.nodes := by
  simp only [element, Element.nodes, Element.nodesAll, trimmed_toString]
  rfl

theorem nodesAll_map_element (parts : List Part) :
    Element.nodesAll (parts.map Part.element) = parts.flatMap Part.nodes := by
  induction parts with
  | nil => rfl
  | cons p parts ih =>
    rw [List.map_cons, Element.nodesAll, ih, p.nodes_element, List.flatMap_cons]

theorem areNamed_map_element (parts : List Part) :
    Element.areNamed (parts.map Part.element) = true := by
  rw [Element.areNamed_eq_all, List.all_map, List.all_eq_true]
  intro p _
  rfl

/-- **A manifest is read back part by part.** -/
theorem ofBytes_manifest (parts : List Part) :
    Document.ofBytes (utf8 (manifest parts)) =
      ⟨.opened "CompleteMultipartUpload" ::
          (parts.flatMap Part.nodes ++ [.closed "CompleteMultipartUpload" ""]),
        .ok (some "CompleteMultipartUpload")⟩ := by
  have hname : IsName "CompleteMultipartUpload" := by decide
  have hwritten := written_renderDocument hname (areNamed_map_element parts)
  rw [manifest, Document.ofBytes_of_written hwritten, Element.nodes, nodesAll_map_element]
  rfl

/-! ### Completion -/

namespace Client

variable {c : Client} {u : Upload} {parts ordered : List Part}

/-- The body names the parts in order. -/
structure NamesInOrder (parts : List Part) (body : Http.Body) : Prop where
  ascending : parts.Pairwise fun a b => a.number < b.number
  /-- Each part has one element, with its number and its own entity tag. -/
  read : ∃ content, body.collect = .ok content ∧ Document.ofBytes content =
    ⟨.opened "CompleteMultipartUpload" ::
        (parts.flatMap Part.nodes ++ [.closed "CompleteMultipartUpload" ""]),
      .ok (some "CompleteMultipartUpload")⟩
  unquoted : ∀ p ∈ parts, Unquoted p.etag (trimQuotes p.etag)

/-- What an answer is made into when the parts have been named. -/
structure Concludes (parts : List Part)
    (result : Except Fault Http.Response → Except Fault Completed) : Prop where
  unrefused : ∀ answer, Exchanged answer → Unrefused (result answer)
  parts : ∀ answer completed, result answer = .ok completed → completed.parts = parts
  success : ∀ r body doc, r.status = 200 → r.body.collect = .ok body →
    Completion.read body = .ok (.success doc) → ∃ completed, result (.ok r) = .ok completed

/-- One request names the parts in order, and its answer is all that is waited for. -/
def SendsInOrder (c : Client) (u : Upload) (parts : List Part) : Prop :=
  ∃ ordered request result,
    (c.completeUpload u parts).run = .ask request (fun answer => .done (result answer)) ∧
      ordered.Perm parts ∧ NamesInOrder ordered request.body ∧ Concludes ordered result

/-- What a completion does with the parts that it is given. -/
structure CompletesInOrder (c : Client) (u : Upload) (parts : List Part) : Prop where
  refused_iff : (∃ m, (c.completeUpload u parts).run = .done (.error (.invalidArgument m))) ↔
    parts = [] ∨ ¬(parts.map Part.number).Nodup
  sent : parts ≠ [] → (parts.map Part.number).Nodup → c.SendsInOrder u parts
  order : ∀ parts', parts'.Perm parts →
    (c.completeUpload u parts').run = (c.completeUpload u parts).run

theorem namesInOrder_completionDescriptor
    (h : ordered.Pairwise fun a b => a.number < b.number) :
    NamesInOrder ordered (completionDescriptor u ordered).body := by
  have hbody : (completionDescriptor u ordered).body = .ofBytes (utf8 (manifest ordered)) := rfl
  constructor
  · exact h
  · rw [hbody]
    exact ⟨_, Http.Body.collect_ofBytes _, ofBytes_manifest ordered⟩
  · intro p _
    exact unquoted_trimQuotes p.etag

theorem unrefused_completedBy (u : Upload) (ordered : List Part) (r : Http.Response) :
    Unrefused (completedBy u ordered r) := by
  have hread := unrefused_readBody .completion (completionDescriptor u ordered).context
    Completion.read r
  unfold completedBy
  dsimp only
  split
  · next hbody =>
    rw [hbody] at hread
    exact unrefused_error_congr hread
  · intro m h
    cases h
  · exact unrefused_ok _

theorem parts_of_completedBy {r : Http.Response} {completed : Completed}
    (h : completedBy u ordered r = .ok completed) : completed.parts = ordered := by
  unfold completedBy at h
  dsimp only at h
  split at h
  · cases h
  · cases h
  · cases h
    rfl

theorem exists_completedBy {r : Http.Response} {body : Bytes} {doc : Completion}
    (hbody : r.body.collect = .ok body) (hdoc : Completion.read body = .ok (.success doc)) :
    ∃ completed, completedBy u ordered r = .ok completed := by
  have hread : readBody .completion (completionDescriptor u ordered).context Completion.read r =
      .ok (.success doc) := by
    simp only [readBody, hbody, hdoc]
    rfl
  simp only [completedBy, hread]
  exact ⟨_, rfl⟩

theorem concludes_completedBy (u : Upload) (ordered : List Part) :
    Concludes ordered fun answer =>
      (answer.bind (accept (completionDescriptor u ordered))).bind (completedBy u ordered) := by
  constructor
  · intro answer hanswer
    apply Unrefused.bind
    · exact hanswer.unrefused.bind (unrefused_accept _)
    · exact unrefused_completedBy u ordered
  · intro answer completed hcompleted
    obtain ⟨r, _, hread⟩ := exists_of_bind_eq_ok hcompleted
    exact parts_of_completedBy hread
  · intro r body doc hstatus hbody hdoc
    have hexpected : r.status ∈ (completionDescriptor u ordered).expected := by
      rw [hstatus]
      exact List.mem_singleton_self 200
    show ∃ completed, (accept (completionDescriptor u ordered) r).bind _ = .ok completed
    rw [accept_of_mem hexpected]
    exact exists_completedBy hbody hdoc

theorem sendsInOrder_completeUpload (c : Client) (u : Upload) (hne : parts ≠ [])
    (hnodup : (parts.map Part.number).Nodup) : c.SendsInOrder u parts := by
  have hascending := pairwise_of_repeatedNumber?_eq_none (pairwise_byNumber parts)
    (repeatedNumber?_byNumber_eq_none_iff.2 hnodup)
  refine ⟨byNumber parts, _, _, run_completeUpload (orderedParts_of_nodup hne hnodup), ?_, ?_, ?_⟩
  · exact byNumber_perm parts
  · exact namesInOrder_completionDescriptor (u := u) hascending
  · exact concludes_completedBy u (byNumber parts)

/-- **A completion refuses its parts or names them in order.** -/
theorem completesInOrder_completeUpload (c : Client) (u : Upload) (parts : List Part) :
    c.CompletesInOrder u parts := by
  constructor
  · constructor
    · rintro ⟨m, hrun⟩
      by_cases hne : parts = []
      · exact .inl hne
      · right
        intro hnodup
        obtain ⟨_, _, _, hask, _⟩ := sendsInOrder_completeUpload c u hne hnodup
        rw [hask] at hrun
        cases hrun
    · intro hbad
      obtain ⟨m, hrefused⟩ := exists_refusal_of_orderedParts hbad
      exact ⟨m, run_completeUpload_of_error hrefused⟩
  · exact sendsInOrder_completeUpload c u
  · intro parts' hperm
    unfold completeUpload
    rw [orderedParts_eq_of_perm hperm]

end Client

end ObjectStore
