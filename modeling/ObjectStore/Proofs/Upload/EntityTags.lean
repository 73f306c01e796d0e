import ObjectStore.Proofs.Outcome
/-!
# The entity tags of parts

A part that is uploaded has the entity tag of a header, and a part that is copied that of an
element.  `Supplied` says what becomes of a response, with one case for each kind.  The two ways
differ where the response gives no tag: an upload is then a violation of the protocol, while a
copy is a part with an empty tag.

**Which responses leave a part without a tag** is said by `PartSupply.tagsPart_of_sent`: of an
upload those whose tag is only quotes, of a copy those whose tag is absent, empty or a pair of
quotes.  A manifest then names the part with an empty tag.
-/

namespace ObjectStore

open Xml

/-! ### Tags of nothing but quotes -/

def OnlyQuotes (tag : String) : Prop := ∀ c ∈ tag.toList, c = '"'

theorem trimQuotes_eq_empty_iff {tag : String} : trimQuotes tag = "" ↔ OnlyQuotes tag := by
  have hempty : trimQuotes tag = "" ↔ Text.trimBoth (· = '"') tag.toList = [] := by
    rw [trimQuotes, ← String.toList_inj, String.toList_ofList]
    rfl
  rw [hempty, Text.trimBoth_eq_nil]
  simp only [OnlyQuotes, decide_eq_true_eq]

/-- A tag loses the quotes at both its ends, or it is left as it is. -/
theorem unquoteTag_cases (tag : String) :
    tag.toList = '"' :: ((unquoteTag tag).toList ++ ['"']) ∨ unquoteTag tag = tag := by
  unfold unquoteTag
  split
  · next rest htag =>
    split
    · next hlast =>
      obtain ⟨inner, rfl⟩ := List.getLast?_eq_some_iff.1 hlast
      refine .inl ?_
      rw [htag, String.toList_ofList, List.dropLast_concat]
    · exact .inr rfl
  · exact .inr rfl

theorem unquoteTag_eq_empty_iff {tag : String} :
    unquoteTag tag = "" ↔ tag = "" ∨ tag = "\"\"" := by
  constructor
  · intro hempty
    rcases unquoteTag_cases tag with hquoted | hsame
    · rw [hempty] at hquoted
      exact .inr (String.toList_inj.1 hquoted)
    · exact .inl (hsame.symm.trans hempty)
  · rintro (rfl | rfl)
    · rfl
    · rfl

theorem onlyQuotes_unquoteTag {tag : String} : OnlyQuotes (unquoteTag tag) ↔ OnlyQuotes tag := by
  rcases unquoteTag_cases tag with hquoted | hsame
  · rw [OnlyQuotes, OnlyQuotes, hquoted, List.forall_mem_cons, List.forall_mem_append,
      List.forall_mem_singleton]
    exact ⟨fun h => ⟨rfl, h, rfl⟩, fun h => h.2.1⟩
  · rw [hsame]

theorem onlyQuotes_trimQuotes {tag : String} : OnlyQuotes (trimQuotes tag) ↔ OnlyQuotes tag := by
  rw [← trimQuotes_eq_empty_iff, ← trimQuotes_eq_empty_iff]
  simp only [trimQuotes, String.toList_ofList, Text.trimBoth_trimBoth]

/-! ### The two ways to a part -/

/-- How an upload is given a part. -/
inductive PartSupply where
  | upload (source : PartSource)
  | copy (source : PartCopySource)

namespace PartSupply

def operation (c : Client) (u : Upload) (number : UInt32) : PartSupply → Operation Part
  | .upload source => c.uploadPart u number source
  | .copy source => c.copyPart u number source

/-- Whether a response says that the part is there. -/
def Confirms (r : Http.Response) : PartSupply → Prop
  | .upload _ => r.status = 200 ∧ ∃ content, r.body.collect = .ok content
  | .copy _ => r.status = 200 ∧ ∃ content nodes, r.body.collect = .ok content ∧
      Document.ofBytes content = ⟨nodes, .ok (some "CopyPartResult")⟩

/-- The tag as the response writes it. -/
def tag? (r : Http.Response) : PartSupply → Option String
  | .upload _ => r.header? "etag"
  | .copy _ => r.body.collect.toOption.bind fun content =>
      lastText? "ETag" (Document.ofBytes content).nodes

/-- The tag that the part of the response gets.  A copy always gets one, if only the empty one. -/
def assigned? (r : Http.Response) : PartSupply → Option String
  | s@(.upload _) => (s.tag? r).map trimQuotes
  | s@(.copy _) => some (((s.tag? r).map unquoteTag).getD "")

/-- What becomes of a response. -/
inductive Supplied (u : Upload) (number : UInt32) (r : Http.Response) (s : PartSupply) :
    Except Fault Part → Prop
  | failed (hconfirms : ¬s.Confirms r) (f : Fault) : Supplied u number r s (.error f)
  | unassigned (hconfirms : s.Confirms r) (hassigned : s.assigned? r = none) :
    Supplied u number r s (.error (.protocol (Client.uploadContext u) .noEntityTag))
  | made (hconfirms : s.Confirms r) {part : Part} (hnumber : part.number = number)
      (hassigned : s.assigned? r = some part.etag) : Supplied u number r s (.ok part)

variable {c : Client} {u : Upload} {number : UInt32} {q : Http.Request}
  {next : Except Fault Http.Response → Dialogue Http.Request (Except Fault Http.Response)
    (Except Fault Part)}

theorem supplied_upload {source : PartSource}
    (hsent : (c.uploadPart u number source).run = .ask q next) (r : Http.Response) :
    ∃ result, next (.ok r) = .done result ∧ Supplied u number r (.upload source) result := by
  obtain ⟨body, length, hrun⟩ := Client.run_uploadPart_of_sent hsent
  refine ⟨_, Operation.next_of_exchange hrun hsent (.ok r), ?_⟩
  rcases hr : Client.drained (Client.partDescriptor u number source.metadata body) (.ok r) with
    f | r'
  · refine .failed ?_ f
    rintro ⟨hstatus, hbody⟩
    have hdrained := (Client.drained_eq_ok_iff
      (d := Client.partDescriptor u number source.metadata body)).2
        ⟨rfl, List.mem_singleton.2 hstatus, hbody⟩
    cases hr.symm.trans hdrained
  · obtain ⟨hanswer, hstatus, hbody⟩ := Client.drained_eq_ok_iff.1 hr
    cases hanswer
    have hconfirms : (upload source).Confirms r := ⟨List.mem_singleton.1 hstatus, hbody⟩
    show Supplied u number r (.upload source) (Client.partOfResponse u number length r)
    rw [Client.partOfResponse]
    rcases htag : r.header? "etag" with _ | tag
    · exact .unassigned hconfirms (congrArg (Option.map trimQuotes) htag)
    · exact .made hconfirms rfl (congrArg (Option.map trimQuotes) htag)

/-- The tag of a copy is what the last element of that name says. -/
theorem etag_collected (nodes : List Node) :
    (Outcome.collected CopyResult.close {} nodes).1.etag =
      ((lastText? "ETag" nodes).map unquoteTag).getD "" := by
  refine foldl_last (fun p : CopyResult × ServiceFailure => p.1.etag) ?_ nodes
    ({}, { status := 200 })
  intro p n
  cases n with
  | opened name => rfl
  | closed name text =>
    -- the tag changes with an element of its name, and what is not taken has another name
    rcases hclose : CopyResult.close p.1 name text with _ | result
    · simp only [Outcome.step, hclose]
      unfold CopyResult.close at hclose
      split at hclose
      · cases hclose
      · cases hclose
      · next hname _ =>
        simp only [Node.textOf?, if_neg hname]
        rfl
    · simp only [Outcome.step, hclose]
      unfold CopyResult.close at hclose
      split at hclose
      · cases hclose
        rfl
      · cases hclose
        rfl
      · cases hclose

theorem copiedBy_of_document {r : Http.Response} {content : Bytes} {nodes : List Node}
    (hbody : r.body.collect = .ok content)
    (hdocument : Document.ofBytes content = ⟨nodes, .ok (some "CopyPartResult")⟩) :
    Client.copiedBy u number r = .ok (Client.copiedPart number
      (Outcome.collected CopyResult.close {} nodes).1) := by
  rw [Client.copiedBy, Client.readBody, hbody]
  show Except.bind (Except.mapError _ (Outcome.read "CopyPartResult" CopyResult.close {} content))
    _ = _
  rw [Outcome.read_eq hdocument]
  rfl

theorem supplied_copiedBy {source : PartCopySource} {r : Http.Response} (hstatus : r.status = 200) :
    Supplied u number r (.copy source) (Client.copiedBy u number r) := by
  by_cases hconfirms : (copy source).Confirms r
  · have ⟨_, content, nodes, hbody, hdocument⟩ := hconfirms
    have htag : (copy source).tag? r = lastText? "ETag" nodes := by
      rw [tag?, hbody]
      show lastText? "ETag" (Document.ofBytes content).nodes = _
      rw [hdocument]
    rw [copiedBy_of_document hbody hdocument]
    refine .made hconfirms rfl ?_
    rw [assigned?, htag, ← etag_collected]
    rfl
  · have hjudged : Judged .copyPart (Client.uploadContext u) .service r.body.collect
        (Client.copiedBy u number r) :=
      Client.judged_decided CopyResult.close (fun _ _ => rfl) (fun _ _ => rfl) {} _ r
    generalize Client.copiedBy u number r = result at hjudged
    cases hjudged with
    | confirmed hbody hdocument => exact absurd ⟨hstatus, _, _, hbody, hdocument⟩ hconfirms
    | reported => exact .failed hconfirms _
    | broken => exact .failed hconfirms _
    | unfit => exact .failed hconfirms _

theorem supplied_copy {source : PartCopySource}
    (hsent : (c.copyPart u number source).run = .ask q next) (r : Http.Response) :
    ∃ result, next (.ok r) = .done result ∧ Supplied u number r (.copy source) result := by
  obtain ⟨range, hrun⟩ := Client.run_copyPart_of_sent hsent
  refine ⟨_, Operation.next_of_exchange hrun hsent (.ok r), ?_⟩
  by_cases hstatus : r.status = 200
  · have haccepted : Except.bind (.ok r)
        (Client.accept (c.partCopyDescriptor u number source range)) = .ok r :=
      Client.accept_of_mem (List.mem_singleton.2 hstatus)
    rw [haccepted]
    exact supplied_copiedBy hstatus
  · have hrefused : Except.bind (.ok r)
        (Client.accept (c.partCopyDescriptor u number source range)) = .error _ :=
      Client.accept_of_notMem fun hmem => hstatus (List.mem_singleton.1 hmem)
    rw [hrefused]
    refine .failed ?_ _
    rintro ⟨h, _⟩
    exact hstatus h

theorem supplied_of_sent {s : PartSupply} (hsent : (s.operation c u number).run = .ask q next)
    (r : Http.Response) :
    ∃ result, next (.ok r) = .done result ∧ Supplied u number r s result := by
  cases s with
  | upload source => exact supplied_upload hsent r
  | copy source => exact supplied_copy hsent r

/-! ### Parts without a tag -/

/-- The responses that leave a part with an empty tag. -/
def Untagged (r : Http.Response) : PartSupply → Prop
  | s@(.upload _) => ∃ tag, s.tag? r = some tag ∧ OnlyQuotes tag
  | s@(.copy _) => s.tag? r = none ∨ s.tag? r = some "" ∨ s.tag? r = some "\"\""

/-- The responses that leave nothing of a tag for a manifest. -/
def Unnamed (r : Http.Response) : PartSupply → Prop
  | s@(.upload _) => ∃ tag, s.tag? r = some tag ∧ OnlyQuotes tag
  | s@(.copy _) => ∀ tag, s.tag? r = some tag → OnlyQuotes tag

theorem untagged_iff {r : Http.Response} {s : PartSupply} :
    s.Untagged r ↔ ∃ etag, s.assigned? r = some etag ∧ etag = "" := by
  rcases htag : s.tag? r with _ | tag
  · cases s with
    | upload source => simp [Untagged, assigned?, htag]
    | copy source => simp [Untagged, assigned?, htag]
  · cases s with
    | upload source => simp [Untagged, assigned?, htag, trimQuotes_eq_empty_iff]
    | copy source => simp [Untagged, assigned?, htag, unquoteTag_eq_empty_iff]

theorem unnamed_iff {r : Http.Response} {s : PartSupply} :
    s.Unnamed r ↔ ∃ etag, s.assigned? r = some etag ∧ trimQuotes etag = "" := by
  rcases htag : s.tag? r with _ | tag
  · cases s with
    | upload source => simp [Unnamed, assigned?, htag]
    | copy source => simp [Unnamed, assigned?, htag, trimQuotes_eq_empty_iff, OnlyQuotes]
  · cases s with
    | upload source =>
      simp [Unnamed, assigned?, htag, trimQuotes_eq_empty_iff, onlyQuotes_trimQuotes]
    | copy source =>
      simp [Unnamed, assigned?, htag, trimQuotes_eq_empty_iff, onlyQuotes_unquoteTag]

theorem Supplied.exists_part_iff {s : PartSupply} {r : Http.Response} {result : Except Fault Part}
    (h : Supplied u number r s result) (P : String → Prop) :
    (∃ part, result = .ok part ∧ P part.etag) ↔
      s.Confirms r ∧ ∃ etag, s.assigned? r = some etag ∧ P etag := by
  cases h with
  | failed hconfirms f =>
    constructor
    · rintro ⟨_, hok, _⟩
      cases hok
    · rintro ⟨h, _⟩
      exact absurd h hconfirms
  | unassigned _ hassigned =>
    constructor
    · rintro ⟨_, hok, _⟩
      cases hok
    · rintro ⟨_, etag, hetag, _⟩
      cases hassigned.symm.trans hetag
  | @made hconfirms part _ hassigned =>
    constructor
    · rintro ⟨_, hok, hpart⟩
      cases hok
      exact ⟨hconfirms, part.etag, hassigned, hpart⟩
    · rintro ⟨_, etag, hetag, hpart⟩
      cases hassigned.symm.trans hetag
      exact ⟨part, rfl, hpart⟩

structure TagsPart (u : Upload) (number : UInt32) (r : Http.Response) (s : PartSupply)
    (result : Except Fault Part) : Prop where
  supplied : Supplied u number r s result
  untagged : (∃ part, result = .ok part ∧ part.etag = "") ↔ s.Confirms r ∧ s.Untagged r
  /-- A manifest names a part with its tag and without quotes. -/
  unnamed : (∃ part, result = .ok part ∧ trimQuotes part.etag = "") ↔ s.Confirms r ∧ s.Unnamed r

/-- **Parts without a tag.**  Whatever the response is, it is made into a part with an empty tag
exactly if it confirms the part and leaves it untagged. -/
theorem tagsPart_of_sent {s : PartSupply} (hsent : (s.operation c u number).run = .ask q next)
    (r : Http.Response) :
    ∃ result, next (.ok r) = .done result ∧ TagsPart u number r s result := by
  obtain ⟨result, hresult, hsupplied⟩ := supplied_of_sent hsent r
  refine ⟨result, hresult, hsupplied, ?_, ?_⟩
  · rw [untagged_iff]
    exact hsupplied.exists_part_iff (· = "")
  · rw [unnamed_iff]
    exact hsupplied.exists_part_iff (trimQuotes · = "")

/-- A header with an empty tag is enough for a part, which then has none. -/
theorem tagsPart_of_quotes :
    ∃ q next part,
      (operation (.ofConfig {} ⟨2024, 3, 5, 7, 8, 9, 2⟩)
          { uploadId := "u", bucket := "b", key := "k" } 1
          (.upload { body := .bytes [120] })).run = .ask q next ∧
        next (.ok { status := 200, headers := [("etag", "\"\"")], body := { pieces := [] } }) =
          .done (.ok part) ∧ part.etag = "" := by
  have hsent : (operation (.ofConfig {} ⟨2024, 3, 5, 7, 8, 9, 2⟩)
      { uploadId := "u", bucket := "b", key := "k" } 1
      (.upload { body := .bytes [120] })).run = .ask _ _ := Client.run_uploadPart rfl rfl
  obtain ⟨result, hresult, htags⟩ := tagsPart_of_sent hsent
    { status := 200, headers := [("etag", "\"\"")], body := { pieces := [] } }
  have honly : OnlyQuotes "\"\"" := by
    intro c hc
    simpa using hc
  obtain ⟨part, rfl, hempty⟩ := htags.untagged.2 ⟨⟨rfl, [], rfl⟩, "\"\"", by decide, honly⟩
  exact ⟨_, _, part, hsent, hresult, hempty⟩

/-- A copy that is confirmed without a tag is a part, and a manifest names it with no tag. -/
theorem copyPart_without_tag :
    ((operation (.ofConfig {} ⟨2024, 3, 5, 7, 8, 9, 2⟩)
        { uploadId := "u", bucket := "b", key := "k" } 1
        (.copy { bucket := "s", key := "t" })).run.replay
      [.ok { status := 200, headers := [],
             body := { pieces := [utf8 "<CopyPartResult></CopyPartResult>"] } }]).2.2.bind
        Except.toOption = some { number := 1, etag := "" } ∧
      (Part.element { number := 1, etag := "" }).render =
        "<Part><PartNumber>1</PartNumber><ETag>\"\"</ETag></Part>" :=
  ⟨by decide +kernel, by decide⟩

end PartSupply

end ObjectStore
