import ObjectStore.Client.Listings
import ObjectStore.Proofs.Address
import ObjectStore.Proofs.Exchange
import ObjectStore.Proofs.Listing.Marking
import ObjectStore.Proofs.Listing.Places
import ObjectStore.Proofs.Lists
import ObjectStore.Proofs.Refusal
/-!
# Attempts at a page

A listing asks for a page again if the attempt before broke: the exchange failed, or the body of
an expected response broke off (`Breaks`).  A response that was read to its end is followed by
another page or by nothing, whatever it says, and broken attempts are made up for as often in a row
as the client allows (`Client.attempts_of_lists`).

The requests of a listing are those for the places of its pager (`Client.attempts_list`), and an
attempt comes to a transient fault exactly if it broke (`Client.isTransient_attempt`).  What the
pager makes of its answers can therefore be said of the attempts (`Client.CameTo`): it stays at a
place, asks again and gives up as they broke.
-/

namespace ObjectStore

namespace Listing.Plan

variable {α : Type} {plan : Plan} {p : Pager α}

theorem unrefused_of_finish {r result : Except Fault (Chunk α)}
    (h : plan.receive p r = .finish result) (hr : Unrefused r) : Unrefused result := by
  cases r with
  | error f =>
    rw [receive_error] at h
    split at h
    · cases h
    · cases h
      exact hr
  | ok page =>
    rw [receive, receivePage] at h
    split at h
    · cases h
      intro m hm
      cases hm
    · split at h
      · cases h
        exact unrefused_ok _
      · split at h
        · cases h
        · cases h
          exact unrefused_ok _

theorem within_dialogue {A B : Except Fault (Chunk α) → Prop}
    (hfinish : ∀ (p : Pager α) r result, plan.receive p r = .finish result → A r → B result)
    (budget : Nat) (p : Pager α) : (plan.dialogue budget p).Within A B budget := by
  induction budget generalizing p with
  | zero => exact .unfinished
  | succ n ih =>
    refine .ask fun r hr => ?_
    rcases hnext : plan.receive p r with p' | result
    · exact ih p'
    · exact .done (hfinish p r result hnext hr)

end Listing.Plan

/-! ### Requests -/

/-- The exchange failed, or the body of an expected response broke off. -/
inductive Breaks : Except Fault Http.Response → Prop where
  | exchange (cause : InputFault) : Breaks (.error (.transport cause))
  | body {r : Http.Response} {cause : InputFault} (hstatus : r.status = 200)
      (hbody : r.body.collect = .error cause) : Breaks (.ok r)

theorem not_breaks_of_collect {r : Http.Response} {body : Bytes} (h : r.body.collect = .ok body) :
    ¬Breaks (.ok r) := by
  intro hbreaks
  cases hbreaks with
  | body _ hbody =>
    rw [h] at hbody
    cases hbody

namespace Client

open Listing

variable {α β : Type} {c : Client} {plan : Plan}

def pageRequest (c : Client) (plan : Plan) (m : Markers) : Http.Request :=
  c.sender.build c.now
    { method := .get, bucket := plan.context.bucket, key := plan.context.key,
      query := plan.queryAt m }

/-- **A request says which markers it carries**, of those that the listing can send. -/
theorem eq_of_pageRequest_eq (hkind : plan.kind.Separate) {m m' : Markers}
    (hm : plan.kind.Carries m) (hm' : plan.kind.Carries m')
    (h : c.pageRequest plan m = c.pageRequest plan m') : m = m' :=
  Kind.eq_of_text_eq hkind hm hm' (Address.eq_of_url_eq (congrArg Http.Request.url h))

/-- What becomes of the answer to a request for a page. -/
def attempt (d : Descriptor) (shape : Shape) (read : Bytes → Except Xml.Fault α)
    (answer : Except Fault Http.Response) : Except Fault α :=
  (answer.bind (accept d)).bind (readBody shape d.context read)

/-- **An attempt comes to a transient fault exactly if it broke.** -/
theorem isTransient_attempt {d : Descriptor} (hexpected : d.expected = [200]) (shape : Shape)
    (read : Bytes → Except Xml.Fault (Chunk α)) {answer : Except Fault Http.Response}
    (h : Exchanged answer) : isTransient (attempt d shape read answer) = true ↔ Breaks answer := by
  cases h with
  | failed cause => exact ⟨fun _ => .exchange cause, fun _ => rfl⟩
  | answered r =>
    by_cases hstatus : r.status = 200
    · have hmem : r.status ∈ d.expected := by
        rw [hexpected, hstatus]
        exact List.mem_singleton_self 200
      have hattempt : attempt d shape read (.ok r) = readBody shape d.context read r := by
        rw [attempt, Except.bind, accept_of_mem hmem]
        rfl
      rw [hattempt, readBody]
      split
      · next cause hbody => exact ⟨fun _ => .body hstatus hbody, fun _ => rfl⟩
      · next body hbody =>
        refine iff_of_false ?_ (not_breaks_of_collect hbody)
        rcases read body with f | page
        · exact Bool.false_ne_true
        · exact Bool.false_ne_true
    · have hnotMem : r.status ∉ d.expected := by
        rw [hexpected]
        simpa using hstatus
      have hattempt : attempt d shape read (.ok r) = .error (failure d.context r) := by
        rw [attempt, Except.bind, accept_of_notMem hnotMem]
        rfl
      rw [hattempt]
      refine iff_of_false ?_ ?_
      · show ¬(failure d.context r).isTransient = true
        unfold failure
        split
        · exact Bool.false_ne_true
        · split
          · exact Bool.false_ne_true
          · exact Bool.false_ne_true
      · intro hbreaks
        cases hbreaks with
        | body hexpects _ => exact hstatus hexpects

theorem exists_read_of_attempt {d : Descriptor} {shape : Shape}
    {read : Bytes → Except Xml.Fault α} {answer : Except Fault Http.Response} {a : α}
    (h : attempt d shape read answer = .ok a) : ∃ s, read s = .ok a := by
  obtain ⟨r, _, hbody⟩ := Xml.exists_of_bind_eq_ok h
  unfold readBody at hbody
  split at hbody
  · cases hbody
  · next body _ =>
    rcases hread : read body with f | a'
    · rw [hread] at hbody
      cases hbody
    · rw [hread] at hbody
      cases hbody
      exact ⟨body, hread⟩

/-- What an attempt came to tells whether it broke, and a page leads to markers that the listing
can send. -/
structure CameTo (kind : Kind) (answer : Except Fault Http.Response)
    (result : Except Fault (Chunk α)) : Prop where
  transient : isTransient result = true ↔ Breaks answer
  carries : ∀ page, result = .ok page → kind.Carries page.next

theorem cameTo_attempt {kind : Kind} {d : Descriptor} (hexpected : d.expected = [200])
    (shape : Shape) {read : Bytes → Except Xml.Fault (Chunk α)}
    (hread : ∀ s page, read s = .ok page → page.IsPage kind)
    {answer : Except Fault Http.Response} (h : Exchanged answer) :
    CameTo kind answer (attempt d shape read answer) where
  transient := isTransient_attempt hexpected shape read h
  carries page hok := by
    obtain ⟨s, hs⟩ := exists_read_of_attempt hok
    exact (hread s page hs).marked.carries

/-! ### From place to place -/

section

variable {answers : List (Except Fault Http.Response)} {results : List (Except Fault (Chunk α))}

/-- The pager stays at a place if the attempt there broke, and only then. -/
theorem stays_iff_breaks (h : List.Forall₂ (CameTo plan.kind) answers results) {p : Pager α}
    {i : Nat} {m m' : Markers} (hm : (plan.places p results)[i]? = some m)
    (hm' : (plan.places p results)[i + 1]? = some m') :
    ∃ answer, answers[i]? = some answer ∧ (m' = m ↔ Breaks answer) := by
  obtain ⟨result, hresult, hsame⟩ := plan.places_succ hm hm'
  obtain ⟨answer, hanswer, hcame⟩ := exists_getElem?_of_forall₂ h hresult
  exact ⟨answer, hanswer, hsame.trans hcame.transient⟩

theorem carries_of_mem_places (h : List.Forall₂ (CameTo plan.kind) answers results) {p : Pager α}
    (hp : plan.kind.Carries p.markers) :
    ∀ m ∈ plan.places p results, plan.kind.Carries m := by
  refine plan.carries_of_mem_places hp fun page hpage => ?_
  obtain ⟨i, hi⟩ := List.getElem?_of_mem hpage
  obtain ⟨answer, _, hcame⟩ := exists_getElem?_of_forall₂ h hi
  exact hcame.carries page rfl

/-- Another request for a place is the same, and for another place it is another one. -/
theorem repeats_iff_breaks (h : List.Forall₂ (CameTo plan.kind) answers results)
    (hkind : plan.kind.Separate) {p : Pager α} (hp : plan.kind.Carries p.markers)
    {i : Nat} {m m' : Markers} (hm : (plan.places p results)[i]? = some m)
    (hm' : (plan.places p results)[i + 1]? = some m') :
    ∃ answer, answers[i]? = some answer ∧
      (c.pageRequest plan m' = c.pageRequest plan m ↔ Breaks answer) := by
  obtain ⟨answer, hanswer, hsame⟩ := stays_iff_breaks h hm hm'
  have hcarries := carries_of_mem_places h hp
  refine ⟨answer, hanswer, Iff.trans ⟨fun hrequest => ?_, congrArg _⟩ hsame⟩
  exact eq_of_pageRequest_eq hkind (hcarries m' (List.mem_of_getElem? hm'))
    (hcarries m (List.mem_of_getElem? hm)) hrequest

theorem le_retryMax_of_breaks (h : List.Forall₂ (CameTo plan.kind) answers results) {i n : Nat}
    (hreached : i + n < (plan.places plan.begin results).length)
    (hbroken : ∀ k, k < n → ∃ answer, answers[i + k]? = some answer ∧ Breaks answer) :
    n ≤ plan.retryMax := by
  have hqueries : i + n < (plan.replay plan.begin results).1.length := by
    rwa [plan.queries_eq_places, List.length_map]
  refine plan.le_retryMax_of_faults hqueries fun k hk => ?_
  obtain ⟨answer, hanswer, hbreaks⟩ := hbroken k hk
  obtain ⟨result, hresult, hcame⟩ := exists_getElem?_of_forall₂ h.flip hanswer
  exact ⟨result, hresult, hcame.transient.2 hbreaks⟩

end

/-! ### Dialogues for pages -/

/-- The requests of a listing are those for the queries of its pager, whose answers are what the
attempts come to. -/
theorem replay_answerPages {page : Query → Operation α} {request : Query → Http.Request}
    {attempted : Query → Except Fault Http.Response → Except Fault α}
    (hpage : ∀ q, (page q).run = .ask (request q) fun answer => .done (attempted q answer))
    (d : Dialogue Query (Except Fault α) (Except Fault β))
    (answers : List (Except Fault Http.Response)) :
    ∃ pages : List (Except Fault α),
      List.Forall₂ (fun answer page => ∃ q, page = attempted q answer) answers pages ∧
        ((answerPages page d).run.replay answers).1 = (d.replay pages).1.map request := by
  induction d generalizing answers with
  | done result =>
    refine ⟨answers.map (attempted Query.empty), ?_, rfl⟩
    exact List.forall₂_map_right_iff.2 (List.forall₂_same.2 fun answer _ => ⟨_, rfl⟩)
  | ask q next ih =>
    have hrun : (answerPages page (.ask q next)).run =
        .ask (request q) fun answer => (answerPages page (next (attempted q answer))).run := by
      show Dialogue.bind (page q).run _ = _
      rw [hpage]
      rfl
    rw [hrun]
    cases answers with
    | nil => exact ⟨[], .nil, rfl⟩
    | cons answer answers =>
      obtain ⟨pages, hpages, hrequests⟩ := ih (attempted q answer) answers
      refine ⟨attempted q answer :: pages, .cons ⟨q, rfl⟩ hpages, ?_⟩
      simp only [Dialogue.replay, hrequests, List.map_cons]
  | unfinished =>
    refine ⟨answers.map (attempted Query.empty), ?_, rfl⟩
    exact List.forall₂_map_right_iff.2 (List.forall₂_same.2 fun answer _ => ⟨_, rfl⟩)

/-- One request for each page, and what the pages come to is what the listing can count on. -/
theorem within_answerPages {T : Except Fault Http.Response → Prop} {A : Except Fault α → Prop}
    {B : Except Fault β → Prop} {page : Query → Operation α}
    (hpage : ∀ q, (page q).run.Within T A 1) {n : Nat}
    {d : Dialogue Query (Except Fault α) (Except Fault β)} (hd : d.Within A B n) :
    (answerPages page d).run.Within T B n := by
  induction hd with
  | done hresult => exact .done hresult
  | @ask n q next _ ih =>
    show Dialogue.Within T B (n + 1) (Dialogue.bind (page q).run _)
    rw [Nat.add_comm]
    exact Dialogue.Within.bind (hpage q) fun result hresult => ih result hresult
  | unfinished => exact .unfinished

/-- What is sent for a listing, attempt by attempt. -/
structure Attempts (c : Client) (plan : Plan) (answers : List (Except Fault Http.Response))
    (requests : List Http.Request) : Prop where
  /-- The listing stays at a page if the attempt at it broke, and only then. -/
  pages : ∃ places : List Markers, requests = places.map (c.pageRequest plan) ∧
    (∀ m ∈ places.head?, m = plan.start.markers) ∧
    ∀ (i : Nat) (m m' : Markers), places[i]? = some m → places[i + 1]? = some m' →
      ∃ answer, answers[i]? = some answer ∧ (m' = m ↔ Breaks answer)
  /-- It sends the request that it sent last if that broke, and only then. -/
  again : plan.kind.Carries plan.start.markers →
    ∀ (i : Nat) (q q' : Http.Request), requests[i]? = some q → requests[i + 1]? = some q' →
      ∃ answer, answers[i]? = some answer ∧ (q' = q ↔ Breaks answer)
  /-- Only so many broken attempts in a row are followed by another. -/
  in_a_row : ∀ i n : Nat, i + n < requests.length →
    (∀ k, k < n → ∃ answer, answers[i + k]? = some answer ∧ Breaks answer) → n ≤ c.retryMax

theorem attempts_nil (c : Client) (plan : Plan) (answers : List (Except Fault Http.Response)) :
    c.Attempts plan answers [] where
  pages := ⟨[], rfl, (fun _ h => nomatch h), fun _ _ _ h _ => nomatch h⟩
  again := fun _ _ _ _ h => nomatch h
  in_a_row := fun _ _ h => absurd h (Nat.not_lt_zero _)

/-- The attempts of a pager, of which a budget takes the first. -/
theorem attempts_places (hretries : plan.retryMax = c.retryMax) (hkind : plan.kind.Separate)
    {answers : List (Except Fault Http.Response)} {results : List (Except Fault (Chunk α))}
    (h : List.Forall₂ (CameTo plan.kind) answers results) (budget : Nat) :
    c.Attempts plan answers
      (((plan.places plan.begin results).take budget).map (c.pageRequest plan)) := by
  have hplace : ∀ {i : Nat} {m : Markers},
      ((plan.places plan.begin results).take budget)[i]? = some m →
        (plan.places plan.begin results)[i]? = some m := by
    intro i m hm
    rw [List.getElem?_take] at hm
    split at hm
    · exact hm
    · cases hm
  refine ⟨⟨_, rfl, fun m hm => ?_, fun i m m' hm hm' => ?_⟩, ?_, ?_⟩
  · rw [Option.mem_def, List.head?_eq_getElem?] at hm
    have hfirst := hplace hm
    rw [← List.head?_eq_getElem?, Plan.head?_places] at hfirst
    exact (Option.some.inj hfirst).symm
  · exact stays_iff_breaks h (hplace hm) (hplace hm')
  · intro hstart i q q' hq hq'
    rw [List.getElem?_map, Option.map_eq_some_iff] at hq hq'
    obtain ⟨m, hm, rfl⟩ := hq
    obtain ⟨m', hm', rfl⟩ := hq'
    exact repeats_iff_breaks h hkind hstart (hplace hm) (hplace hm')
  · intro i n hreached hbroken
    rw [List.length_map, List.length_take] at hreached
    rw [← hretries]
    exact le_retryMax_of_breaks h (by omega) hbroken

theorem attempts_list (c : Client) {kind : Kind} (context : Context) (base : Query)
    (start : PageState) (mode : Mode) (shape : Shape)
    {read : Bytes → Except Xml.Fault (Chunk α)} (hkind : kind.Separate)
    (hread : ∀ s page, read s = .ok page → page.IsPage kind)
    {answers : List (Except Fault Http.Response)}
    (hanswers : ∀ answer ∈ answers, Exchanged answer) :
    c.Attempts { kind, base, start, mode, context, retryMax := c.retryMax } answers
      ((c.list kind context base start mode shape read).run.replay answers).1 := by
  let plan : Plan := { kind, base, start, mode, context, retryMax := c.retryMax }
  let descriptor (query : Query) : Descriptor :=
    { method := .get, bucket := context.bucket, key := context.key, query }
  obtain ⟨results, hresults, hsent⟩ := replay_answerPages
    (fun query => run_fetch (c := c) (descriptor query) shape read)
    (plan.dialogue c.pageBudget plan.begin) answers
  have hcame : List.Forall₂ (CameTo kind) answers results := by
    rw [List.forall₂_iff_get] at hresults ⊢
    refine ⟨hresults.1, fun i hi hi' => ?_⟩
    obtain ⟨query, hresult⟩ := hresults.2 i hi hi'
    rw [hresult]
    exact cameTo_attempt rfl shape hread (hanswers _ (List.get_mem answers ⟨i, hi⟩))
  have hrequests : ((c.list kind context base start mode shape read).run.replay answers).1 =
      ((plan.places plan.begin results).take c.pageBudget).map (c.pageRequest plan) := by
    refine hsent.trans ?_
    rw [plan.queries_dialogue, plan.queries_eq_places, ← List.map_take, List.map_map]
    rfl
  rw [hrequests]
  exact attempts_places rfl hkind hcame c.pageBudget

theorem within_list (c : Client) (kind : Kind) (context : Context) (base : Query)
    (start : PageState) (mode : Mode) (shape : Shape)
    (read : Bytes → Except Xml.Fault (Chunk α)) :
    Operation.Within c.pageBudget (c.list kind context base start mode shape read) := by
  refine within_answerPages (fun _ => within_fetch c _ _ _) (Plan.within_dialogue ?_ _ _)
  intro p r result hfinish hr
  exact Plan.unrefused_of_finish hfinish hr

/-! ### The four listings -/

/-- The listings of a client, each with its plan. -/
inductive Lists (c : Client) : {α : Type} → Plan → Operation (Chunk α) → Prop where
  | objects (bucket : String) (start : PageState) (mode : Mode) :
    c.Lists { kind := .objects, start, mode, context := { bucket := some bucket },
              retryMax := c.retryMax } (c.listObjects bucket start mode)
  | versions (bucket : String) (start : PageState) (mode : Mode) :
    c.Lists { kind := .versions, start, mode, context := { bucket := some bucket },
              retryMax := c.retryMax } (c.listVersions bucket start mode)
  | uploads (bucket : String) (start : PageState) (mode : Mode) :
    c.Lists { kind := .uploads, start, mode, context := { bucket := some bucket },
              retryMax := c.retryMax } (c.listUploads bucket start mode)
  | parts (u : Upload) (start : PageState) (mode : Mode) :
    c.Lists { kind := .parts, base := Query.empty.set "uploadId" u.uploadId,
              start := { start with limit := some (start.limit.getD 1000) }, mode,
              context := { bucket := some u.bucket, key := some u.key,
                           uploadId := some u.uploadId },
              retryMax := c.retryMax } (c.listParts u start mode)

/-- An operation that refuses its arguments or follows a pager. -/
inductive Paged (c : Client) : Plan → Operation (Chunk α) → Prop
  | refused (plan : Plan) {op : Operation (Chunk α)} {m : Misuse}
    (hrun : op.run = .done (.error (.invalidArgument m))) : c.Paged plan op
  | pages {kind : Kind} (context : Context) (base : Query) (start : PageState) (mode : Mode)
    (shape : Shape) {read : Bytes → Except Xml.Fault (Chunk α)} (hkind : kind.Separate)
    (hread : ∀ s page, read s = .ok page → page.IsPage kind) :
    c.Paged { kind, base, start, mode, context, retryMax := c.retryMax }
      (c.list kind context base start mode shape read)

/-- The listings differ in what they ask for and in how a page is read. -/
theorem Lists.paged {op : Operation (Chunk α)} (h : c.Lists plan op) : c.Paged plan op := by
  cases h with
  | objects =>
    exact .pages _ _ _ _ _ (by decide) fun _ _ => ObjectsPage.isPage_read
  | versions =>
    exact .pages _ _ _ _ _ (by decide) fun _ _ => VersionsPage.isPage_read
  | uploads bucket start mode =>
    unfold listUploads
    split
    · exact .refused _ rfl
    · exact .pages _ _ _ _ _ (by decide) fun _ _ => UploadsPage.isPage_read
  | parts =>
    exact .pages _ _ _ _ _ (by decide) fun _ _ => PartsPage.isPage_read

theorem Lists.guarded {op : Operation (Chunk α)} (h : c.Lists plan op) :
    Operation.Guarded c.pageBudget op := by
  cases h.paged with
  | refused _ hrun => exact .inl ⟨_, hrun⟩
  | pages => exact (within_list c _ _ _ _ _ _ _).guarded

/-- **A listing attempts a page again only if the attempt before broke**, and only so often in a
row. -/
theorem attempts_of_lists {op : Operation (Chunk α)} (h : c.Lists plan op)
    {answers : List (Except Fault Http.Response)}
    (hanswers : ∀ answer ∈ answers, Exchanged answer) :
    c.Attempts plan answers (op.run.replay answers).1 := by
  cases h.paged with
  | refused _ hrun =>
    rw [hrun]
    exact attempts_nil c _ answers
  | pages _ _ _ _ _ hkind hread => exact attempts_list c _ _ _ _ _ hkind hread hanswers

end Client

end ObjectStore
