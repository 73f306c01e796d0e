import ObjectStore.Proofs.Command.Batches
import ObjectStore.Proofs.Command.Sessions
import ObjectStore.Proofs.Listing.ObjectKeys
/-!
# Removing everything under a prefix

The requests that a removal sends after its listing name the keys that the listing came to,
in the same order and in batches.  So what is deleted is what was listed, as far as the keys
of the pages are read as they stand there (`removeAll_names_listed_keys`).
-/

namespace ObjectStore

namespace Command

/-! ### Batches -/

/-- Batches are deleted in their order, up to the first that fails. -/
theorem held_removeBatches {c : Client} {bucket : String} {total : Nat}
    {all : List (List String)} {log : List Exchange} {outcome : Except CommandFault Nat}
    (hall : ∀ keys ∈ all, keys ≠ [] ∧ keys.length ≤ Client.maxDeletions)
    (h : Session.Held (removeBatches c bucket total all).run log outcome) :
    ∃ sent rest, all = sent ++ rest ∧ log.map Prod.fst = sent.map (deletion c bucket) ∧
      (outcome.toOption.isSome = true → rest = []) := by
  obtain ⟨events, hevents, rfl⟩ := Session.held_iff.1 h
  have hends := ((transcript_removeBatches hall).1 hevents).ends
  generalize exchanges events = log at hends
  cases hends with
  | all hsent _ => exact ⟨all, [], (List.append_nil all).symm, hsent, fun _ => rfl⟩
  | @failed sent keys rest log x fault hsent _ hx _ =>
    refine ⟨sent ++ [keys], rest, ?_, ?_, fun hok => nomatch hok⟩
    · rw [List.append_assoc, List.singleton_append]
    · rw [List.map_append, List.map_append, hsent, List.map_singleton, hx, List.map_singleton]

/-! ### The listing -/

open Listing

/-- The page that an answer holds, if it can be read. -/
def pageOf? (answer : Except Fault Http.Response) : Option (Chunk StoredObject) :=
  (answer.toOption.bind content?).bind fun s => (ObjectsPage.read s).toOption

/-- What the client makes of the answer to a request for a page. -/
def takenPage (d : Descriptor) (answer : Except Fault Http.Response) :
    Except Fault (Chunk StoredObject) :=
  (answer.bind (Client.accept d)).bind
    (Client.readBody .listObjects d.context ObjectsPage.read)

theorem toOption_takenPage {d : Descriptor} (h : d.expected = [200])
    (answer : Except Fault Http.Response) : (takenPage d answer).toOption = pageOf? answer :=
  toOption_readBody h .listObjects ObjectsPage.read answer

def itemsOf {α : Type} (page : Option (Chunk α)) : List α := (page.map Chunk.items).getD []

/-- A page adds its items, and a fault that is put up with adds nothing. -/
theorem receive_merge {α : Type} {plan : Plan} (hmode : plan.mode = .merge) (p : Pager α)
    (answer : Except Fault (Chunk α)) :
    match plan.receive p answer with
    | .goOn p' => p'.merged.items = p.merged.items ++ itemsOf answer.toOption
    | .finish result => ∀ chunk, result = .ok chunk →
        chunk.items = p.merged.items ++ itemsOf answer.toOption := by
  rcases answer with f | page
  · rw [Plan.receive]
    by_cases htransient : f.isTransient = true
    · rw [if_pos htransient, Retry.fail]
      by_cases hattempts : p.retry.attempts < p.retry.max
      · rw [if_pos hattempts]
        exact (List.append_nil _).symm
      · rw [if_neg hattempts]
        exact fun chunk h => nomatch h
    · rw [if_neg htransient]
      exact fun chunk h => nomatch h
  · rw [Plan.receive, Plan.receivePage]
    rcases plan.violation? p page with _ | v
    · simp only [hmode]
      by_cases htruncated : page.truncated = true
      · rw [if_pos htruncated]
        rfl
      · rw [if_neg htruncated]
        intro chunk h
        cases h
        rfl
    · exact fun chunk h => nomatch h

theorem run_answerPages {c : Client} {descriptor : Query → Descriptor} {q : Query}
    {next : Except Fault (Chunk StoredObject) →
      Dialogue Query (Except Fault (Chunk StoredObject)) (Except Fault (Chunk StoredObject))} :
    (Client.answerPages (fun q => c.fetch (descriptor q) .listObjects ObjectsPage.read)
        (.ask q next)).run =
      .ask (c.sender.build c.now (descriptor q)) fun answer =>
        (Client.answerPages (fun q => c.fetch (descriptor q) .listObjects ObjectsPage.read)
          (next (takenPage (descriptor q) answer))).run := by
  have hask : (Client.answerPages (fun q => c.fetch (descriptor q) .listObjects ObjectsPage.read)
        (.ask q next)).run =
      (c.fetch (descriptor q) .listObjects ObjectsPage.read).run.bind fun r =>
        (Client.answerPages (fun q => c.fetch (descriptor q) .listObjects ObjectsPage.read)
          (next r)).run := rfl
  rw [hask, Client.run_fetch]
  rfl

/-- A listing that puts pages together comes to the items of the pages that were read. -/
theorem held_answerPages {c : Client} {plan : Plan} (hmode : plan.mode = .merge)
    {descriptor : Query → Descriptor} (hexpected : ∀ q, (descriptor q).expected = [200])
    (hmethod : ∀ q, (descriptor q).method = .get) {n : Nat} {p : Pager StoredObject}
    {log : List Exchange} {result : Except Fault (Chunk StoredObject)}
    (h : Session.Held (Session.ofDialogue (Client.answerPages
      (fun q => c.fetch (descriptor q) .listObjects ObjectsPage.read) (plan.dialogue n p)).run)
      log result) :
    (∀ x ∈ log, x.1.method = .get) ∧ ∀ chunk, result = .ok chunk →
      chunk.items = p.merged.items ++ log.flatMap fun x => itemsOf (pageOf? x.2) := by
  -- on the pages that may still be asked for; what has been put together so far stands in front
  induction n generalizing p log with
  | zero => cases h
  | succ n ih =>
    rw [Plan.dialogue, run_answerPages] at h
    obtain ⟨answer, log, rfl, hrest⟩ := h.of_ask
    have hreceive := receive_merge hmode p (takenPage (descriptor (plan.query p)) answer)
    rw [toOption_takenPage (hexpected _)] at hreceive
    have hfirst : (c.sender.build c.now (descriptor (plan.query p))).method = .get :=
      hmethod (plan.query p)
    rcases hverdict : plan.receive p (takenPage (descriptor (plan.query p)) answer) with p' | r
    · rw [hverdict] at hrest hreceive
      obtain ⟨hget, hitems⟩ := ih hrest
      refine ⟨List.forall_mem_cons.2 ⟨hfirst, hget⟩, fun chunk hchunk => ?_⟩
      rw [hitems chunk hchunk, hreceive, List.append_assoc]
      rfl
    · rw [hverdict] at hrest hreceive
      cases hrest
      refine ⟨List.forall_mem_cons.2 ⟨hfirst, fun x hx => nomatch hx⟩, fun chunk hchunk => ?_⟩
      rw [hreceive chunk hchunk]
      simp

theorem held_listObjects {c : Client} {bucket : String} {start : PageState} {log : List Exchange}
    {result : Except Fault (Chunk StoredObject)}
    (h : Session.Held (Session.ofDialogue (c.listObjects bucket start .merge).run) log result) :
    (∀ x ∈ log, x.1.method = .get) ∧ ∀ chunk, result = .ok chunk →
      chunk.items = log.flatMap fun x => itemsOf (pageOf? x.2) := by
  let descriptor : Query → Descriptor := fun query =>
    { method := .get, bucket := some bucket, query }
  have hexpected : ∀ q, (descriptor q).expected = [200] := fun _ => rfl
  have hmethod : ∀ q, (descriptor q).method = .get := fun _ => rfl
  exact held_answerPages rfl hexpected hmethod h

/-! ### Removing what was listed -/

def responses (method : Http.Method) (log : List Exchange) : List Http.Response :=
  (log.filter fun x => x.1.method = method).filterMap fun x => x.2.toOption

def requests (method : Http.Method) (log : List Exchange) : List Http.Request :=
  (log.filter fun x => x.1.method = method).map Prod.fst

/-- The deletions of the listed keys, as far as they come. -/
structure Removes (c : Client) (bucket : String) (force : Bool) (keys : List String)
    (deletions : List Exchange) (sent : List (List String)) (outcome : Except CommandFault Unit) :
    Prop where
  requests : deletions.map Prod.fst = sent.map (deletion c bucket)
  started : sent.flatten <+: keys
  done : outcome = .ok () → sent.flatten = keys ∨ force = false ∧ sent = []

theorem removes_nothing {c : Client} {bucket : String} {force : Bool}
    {keys : List String} {outcome : Except CommandFault Unit}
    (h : outcome = .ok () → keys = [] ∨ force = false) :
    Removes c bucket force keys [] [] outcome := by
  refine ⟨rfl, List.nil_prefix, fun hdone => ?_⟩
  rcases h hdone with hkeys | hforce
  · exact .inl hkeys.symm
  · exact .inr ⟨hforce, rfl⟩

/-- A removal once the keys are known. -/
def removeListed (c : Client) (bucket start : String) (force : Bool) (keys : List String) :
    Act Unit :=
  if keys.isEmpty then Act.print "No objects found\n"
  else do
    let agreed ← Act.agreement force
      s!"Delete {keys.length} objects under s3://{bucket}/{start}?"
    if !agreed then Act.print "Delete cancelled\n"
    else do
      let total ← removeBatches c bucket 0 (batches Client.maxDeletions keys)
      Act.print s!"Total deleted: {total} objects\n"

theorem removeAll_eq (c : Client) (bucket start : String) (force : Bool) :
    removeAll c bucket start force = (do
      let listing ← Act.perform .listObjects
        (c.listObjects bucket { keyPrefix := some start } .merge)
      removeListed c bucket start force (listing.items.map StoredObject.key)) := by
  refine congrArg (bind _) (funext fun listing => ?_)
  unfold removeListed
  cases force with
  | true => rfl
  | false => rfl

/-- The keys are deleted batch by batch, unless nothing is to be deleted after all. -/
theorem held_removeListed {c : Client} {bucket start : String} {force : Bool}
    {keys : List String} {log : List Exchange} {outcome : Except CommandFault Unit}
    (h : Session.Held (removeListed c bucket start force keys).run log outcome) :
    ∃ sent, Removes c bucket force keys log sent outcome := by
  rw [removeListed] at h
  by_cases hempty : keys.isEmpty = true
  · rw [if_pos hempty] at h
    obtain ⟨rfl, _⟩ := Act.held_print h
    exact ⟨[], removes_nothing fun _ => .inl (List.isEmpty_iff.1 hempty)⟩
  · rw [if_neg hempty] at h
    rcases Act.held_bind h with ⟨fault, hagreed, _⟩ | ⟨first, log, agreed, hagreed, hrest, rfl⟩
    · obtain ⟨_, _, hok, _⟩ := Act.held_agreement hagreed
      cases hok
    obtain ⟨rfl, agreed', hok, hforce⟩ := Act.held_agreement hagreed
    cases hok
    rw [List.nil_append]
    cases agreed with
    | false =>
      obtain ⟨rfl, _⟩ := Act.held_print hrest
      refine ⟨[], removes_nothing fun _ => .inr ?_⟩
      cases force with
      | false => rfl
      | true => cases hforce rfl
    | true =>
      have hsize : ∀ batch ∈ batches Client.maxDeletions keys,
          batch ≠ [] ∧ batch.length ≤ Client.maxDeletions :=
        fun batch hbatch => mem_batches (by decide) hbatch
      have hkeys := flatten_batches Client.maxDeletions keys
      rcases Act.held_bind hrest with
        ⟨fault, hheld, rfl⟩ | ⟨first, second, total, hheld, hprint, rfl⟩
      · obtain ⟨sent, rest, hall, hsent, _⟩ := held_removeBatches hsize hheld
        rw [hall, List.flatten_append] at hkeys
        exact ⟨sent, hsent, ⟨rest.flatten, hkeys⟩, fun hdone => nomatch hdone⟩
      · obtain ⟨sent, rest, hall, hsent, hall'⟩ := held_removeBatches hsize hheld
        obtain ⟨rfl, _⟩ := Act.held_print hprint
        rw [hall, List.flatten_append] at hkeys
        refine ⟨sent, ?_, ⟨rest.flatten, hkeys⟩, fun _ => .inl ?_⟩
        · rw [List.append_nil]
          exact hsent
        · rw [hall' rfl, List.flatten_nil, List.append_nil] at hkeys
          exact hkeys

theorem held_removeAll {c : Client} {bucket start : String} {force : Bool} {log : List Exchange}
    {outcome : Except CommandFault Unit}
    (h : Session.Held (removeAll c bucket start force).run log outcome) :
    ∃ listing deletions sent, log = listing ++ deletions ∧
      (∀ x ∈ listing, x.1.method = .get) ∧
      Removes c bucket force ((listing.flatMap fun x => itemsOf (pageOf? x.2)).map StoredObject.key)
        deletions sent outcome := by
  rw [removeAll_eq] at h
  rcases Act.held_bind h with
    ⟨fault, hlisting, rfl⟩ | ⟨listing, deletions, chunk, hlisting, hrest, rfl⟩
  · obtain ⟨result, hheld, hresult⟩ := Act.held_perform hlisting
    obtain ⟨hget, _⟩ := held_listObjects hheld
    exact ⟨log, [], [], (List.append_nil _).symm, hget,
      removes_nothing fun hdone => nomatch hdone⟩
  · obtain ⟨result, hheld, hresult⟩ := Act.held_perform hlisting
    obtain ⟨hget, hitems⟩ := held_listObjects hheld
    rcases result with f | chunk'
    · cases hresult
    cases hresult
    obtain ⟨sent, hremoves⟩ := held_removeListed hrest
    rw [hitems chunk rfl] at hremoves
    exact ⟨listing, deletions, sent, rfl, hget, hremoves⟩

theorem requests_append_deletions {c : Client} {bucket : String} {listing deletions : List Exchange}
    {sent : List (List String)} (hget : ∀ x ∈ listing, x.1.method = .get)
    (hsent : deletions.map Prod.fst = sent.map (deletion c bucket)) :
    requests .post (listing ++ deletions) = sent.map (deletion c bucket) ∧
      responses .get (listing ++ deletions) = listing.filterMap fun x => x.2.toOption := by
  have hpost : ∀ x ∈ deletions, x.1.method = .post := by
    intro x hx
    have hmem : x.1 ∈ deletions.map Prod.fst := List.mem_map_of_mem hx
    rw [hsent, List.mem_map] at hmem
    obtain ⟨keys, _, hkeys⟩ := hmem
    rw [← hkeys]
    rfl
  have hlisting : ∀ x ∈ listing, ¬ (x.1.method = .post) := by
    intro x hx h
    cases h.symm.trans (hget x hx)
  have hdeletions : ∀ x ∈ deletions, ¬ (x.1.method = .get) := by
    intro x hx h
    cases h.symm.trans (hpost x hx)
  constructor
  · rw [requests, List.filter_append, List.filter_eq_nil_iff.2 (by simpa using hlisting),
      List.filter_eq_self.2 (by simpa using hpost), List.nil_append, hsent]
  · rw [responses, List.filter_append, List.filter_eq_self.2 (by simpa using hget),
      List.filter_eq_nil_iff.2 (by simpa using hdeletions), List.append_nil]

/-- A page that is served as it was written shows its keys, trimmed. -/
theorem keys_pageOf? {r : Http.Response} {page : WrittenPage} (h : content? r = some page.body) :
    (itemsOf (pageOf? (.ok r))).map StoredObject.key = page.keys.map Xml.trimmed := by
  obtain ⟨chunk, hread, hkeys⟩ := ObjectsPage.read_writtenPage page
  have hpage : pageOf? (.ok r) = (ObjectsPage.read page.body).toOption := by
    show (content? r).bind _ = _
    rw [h, Option.bind_some]
  rw [hpage, hread]
  exact hkeys

theorem keys_of_listing {listing : List Exchange} {pages : List WrittenPage}
    (h : (listing.filterMap fun x => x.2.toOption).map content? =
      pages.map fun page => some page.body) :
    (listing.flatMap fun x => itemsOf (pageOf? x.2)).map StoredObject.key =
      (pages.flatMap WrittenPage.keys).map Xml.trimmed := by
  induction listing generalizing pages with
  | nil =>
    obtain rfl := List.map_eq_nil_iff.1 h.symm
    rfl
  | cons x listing ih =>
    obtain ⟨q, answer⟩ := x
    rcases answer with f | r
    · exact ih h
    · cases pages with
      | nil => cases h
      | cons page pages =>
        obtain ⟨hfirst, hrest⟩ := List.cons.inj h
        rw [List.flatMap_cons, List.map_append, List.flatMap_cons, List.map_append,
          keys_pageOf? hfirst, ih hrest]

/-- **A removal names the keys that were listed**, each without the blanks at its ends: however
the pages are laid out, they are read as their keys, and the deletions that follow name these
keys in this order. -/
theorem removeAll_names_listed_keys (pages : List WrittenPage) :
    (∀ page ∈ pages, ∃ chunk, ObjectsPage.read page.body = .ok chunk ∧
      chunk.items.map StoredObject.key = page.keys.map Xml.trimmed) ∧
    ∀ {c : Client} {bucket start : String} {force : Bool} {log : List Exchange}
      {outcome : Except CommandFault Unit},
      Session.Held (removeAll c bucket start force).run log outcome →
      (responses .get log).map content? = pages.map (fun page => some page.body) →
      ∃ sent : List (List String), requests .post log = sent.map (deletion c bucket) ∧
        sent.flatten <+: (pages.flatMap WrittenPage.keys).map Xml.trimmed ∧
        (outcome = .ok () →
          sent.flatten = (pages.flatMap WrittenPage.keys).map Xml.trimmed ∨
            force = false ∧ sent = []) := by
  refine ⟨fun page _ => ObjectsPage.read_writtenPage page, ?_⟩
  intro c bucket start force log outcome hheld hpages
  obtain ⟨listing, deletions, sent, rfl, hget, hremoves⟩ := held_removeAll hheld
  obtain ⟨hposts, hgets⟩ := requests_append_deletions hget hremoves.requests
  rw [hgets] at hpages
  have hkeys := keys_of_listing hpages
  obtain ⟨_, hstarted, hdone⟩ := hremoves
  rw [hkeys] at hstarted hdone
  exact ⟨sent, hposts, hstarted, hdone⟩

/-- All objects of a page are deleted, where a key has a blank in front of it and another one a
mark in it. -/
theorem removeAll_names_blank_and_mark :
    ∃ (page : WrittenPage) (c : Client) (log : List Exchange), page.keys = [" a", "b&c"] ∧
      Session.Held (removeAll c "b" "" true).run log (.ok ()) ∧
      ∃ sent : List (List String), requests .post log = sent.map (deletion c "b") ∧
        sent.flatten = ["a", "b&c"] := by
  let page : WrittenPage :=
    .render [.object [] " a" [], .object [] "b&c" [.text "Size" "3"]] (by decide) (by decide)
  let c : Client := Client.ofConfig {} ⟨2024, 3, 5, 7, 8, 9, 2⟩
  let answers : List (Except Fault Http.Response) :=
    [.ok ⟨200, [], ⟨[page.body], none⟩⟩, .ok ⟨200, [], ⟨[utf8 "<DeleteResult/>"], none⟩⟩]
  have hruns : ((removeAll c "b" "" true).run.hold answers).any (fun (log, outcome) =>
      outcome.toOption.isSome && (responses .get log).map content? = [some page.body]) = true := by
    decide +kernel
  rcases hhold : (removeAll c "b" "" true).run.hold answers with _ | ⟨log, outcome⟩
  · rw [hhold] at hruns
    cases hruns
  rw [hhold, Option.any_some, Bool.and_eq_true, decide_eq_true_eq] at hruns
  obtain ⟨hok, hpages⟩ := hruns
  rcases outcome with fault | ⟨⟩
  · cases hok
  have hheld := Session.held_of_hold hhold
  obtain ⟨sent, hsent, _, hdone⟩ := (removeAll_names_listed_keys [page]).2 hheld hpages
  refine ⟨page, c, log, rfl, hheld, sent, hsent, ?_⟩
  rcases hdone rfl with hkeys | ⟨hforce, _⟩
  · exact hkeys.trans (by decide)
  · cases hforce

end Command

end ObjectStore
