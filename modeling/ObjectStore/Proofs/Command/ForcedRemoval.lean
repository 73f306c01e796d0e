import Mathlib.Data.List.Forall2
import ObjectStore.Proofs.Command.Removal
import ObjectStore.Proofs.Object.Deletion
import ObjectStore.Proofs.Upload.Requests
/-!
# Removing without asking

`ForcedRemoval` says what is done with the listed keys: they are deleted batch by batch, and the
total is printed unless a deletion fails.

**A forced removal deletes what was listed** (`removesListed_of_forced`), in as few requests as it
takes and for any answers that the deletions get.
-/

namespace ObjectStore

namespace Command

open Listing Session

variable {c : Client} {bucket start : String} {keys : List String} {events : List Event}

/-! ### Removing what was listed -/

def totalLine (n : Nat) : String := s!"Total deleted: {n} objects\n"

/-- What is done with the listed keys without asking. -/
inductive ForcedRemoval (c : Client) (bucket : String) (keys : List String) :
    List Event → Except CommandFault Unit → Prop
  | nothing (hkeys : keys = []) :
      ForcedRemoval c bucket keys [.printed "No objects found\n"] (.ok ())
  | failed {events : List Event} {fault : CommandFault} (hkeys : keys ≠ [])
      (h : Batchwise c bucket 0 (batches Client.maxDeletions keys) events (.error fault)) :
      ForcedRemoval c bucket keys events (.error fault)
  | removed {events : List Event} {total : Nat} (hkeys : keys ≠ [])
      (h : Batchwise c bucket 0 (batches Client.maxDeletions keys) events (.ok total)) :
      ForcedRemoval c bucket keys (events ++ [.printed (totalLine total)]) (.ok ())

theorem removeListed_forced (hkeys : keys ≠ []) :
    removeListed c bucket start true keys =
      removeBatches c bucket 0 (batches Client.maxDeletions keys) >>= fun total =>
        Act.print (totalLine total) := by
  rw [removeListed, if_neg fun hempty => hkeys (List.isEmpty_iff.1 hempty)]
  rfl

theorem transcript_keyBatches {outcome : Except CommandFault Nat} :
    Transcript (removeBatches c bucket 0 (batches Client.maxDeletions keys)).run events outcome ↔
      Batchwise c bucket 0 (batches Client.maxDeletions keys) events outcome :=
  transcript_removeBatches fun _ hbatch => mem_batches (by decide) hbatch

theorem transcript_removeListed {outcome : Except CommandFault Unit} :
    Transcript (removeListed c bucket start true keys).run events outcome ↔
      ForcedRemoval c bucket keys events outcome := by
  by_cases hkeys : keys = []
  · subst hkeys
    rw [removeListed, if_pos List.isEmpty_nil, Act.transcript_print]
    constructor
    · rintro ⟨rfl, rfl⟩
      exact .nothing rfl
    · intro h
      cases h with
      | nothing => exact ⟨rfl, rfl⟩
      | failed hkeys => exact absurd rfl hkeys
      | removed hkeys => exact absurd rfl hkeys
  · rw [removeListed_forced hkeys, Act.transcript_bind]
    constructor
    · rintro (⟨fault, hfailed, rfl⟩ | ⟨first, second, total, hfirst, hprint, rfl⟩)
      · exact .failed hkeys (transcript_keyBatches.1 hfailed)
      · obtain ⟨rfl, rfl⟩ := Act.transcript_print.1 hprint
        exact .removed hkeys (transcript_keyBatches.1 hfirst)
    · intro h
      cases h with
      | nothing hnone => exact absurd hnone hkeys
      | failed _ h => exact .inl ⟨_, transcript_keyBatches.2 h, rfl⟩
      | removed _ h =>
        exact .inr ⟨_, _, _, transcript_keyBatches.2 h, Act.transcript_print.2 ⟨rfl, rfl⟩, rfl⟩

/-! ### The requests -/

/-- The request deletes the keys, and there are not too many of them. -/
structure Deletes (c : Client) (bucket : String) (keys : List String) (q : Http.Request) :
    Prop where
  request : q = deletion c bucket keys
  /-- Who reads the document of the request finds the keys and nothing else. -/
  asked : ∃ document, q.body.collect = .ok (utf8 document) ∧
    Asked.ofDocument document = .ok { objects := keys.map fun key => { key } }
  one_le_length : 1 ≤ keys.length
  length_le : keys.length ≤ 1000

theorem deletes_of_mem_batches {c : Client} {bucket : String} {all keys : List String}
    (h : keys ∈ batches Client.maxDeletions all) :
    Deletes c bucket keys (deletion c bucket keys) := by
  obtain ⟨hne, hlength⟩ := mem_batches (by decide) h
  refine ⟨rfl, ⟨_, ?_, Asked.ofDocument_deletionRequest _ false⟩, ?_, hlength⟩
  · have hbody : (deletion c bucket keys).body =
        .ofBytes (utf8 (deletionRequest (keys.map fun key => { key }) false)) := rfl
    rw [hbody, Http.Body.collect_ofBytes]
  · exact List.length_pos_iff.2 hne

/-- The listed keys are deleted batch by batch. -/
structure RemovesInBatches (c : Client) (bucket : String) (keys : List String)
    (sent : List (List String)) (events : List Event) (outcome : Except CommandFault Unit) :
    Prop where
  requests : List.Forall₂ (Deletes c bucket) sent ((exchanges events).map Prod.fst)
  started : sent.flatten <+: keys
  all_iff : (sent.flatten = keys ∧ sent.length = (keys.length + 999) / 1000) ↔
    ∀ i x, (exchanges events)[i]? = some x → i + 1 < (keys.length + 999) / 1000 → Answered x
  stopped : ∀ i x, (exchanges events)[i]? = some x → ¬Answered x →
    i + 1 = (exchanges events).length
  done_iff : outcome = .ok () ↔ ∀ x ∈ exchanges events, Answered x
  total : keys ≠ [] → (∀ x ∈ exchanges events, Answered x) →
    (prints events).getLast? = some (totalLine (deletedObjects (exchanges events)).length)
  nothing : keys = [] → events = [.printed "No objects found\n"]

theorem forall₂_deletes {sent rest : List (List String)} {log : List Exchange}
    (hall : batches Client.maxDeletions keys = sent ++ rest)
    (hsent : log.map Prod.fst = sent.map (deletion c bucket)) :
    List.Forall₂ (Deletes c bucket) sent (log.map Prod.fst) := by
  rw [hsent, List.forall₂_map_right_iff, List.forall₂_same]
  intro batch hbatch
  have hmem : batch ∈ batches Client.maxDeletions keys := by
    rw [hall]
    exact List.mem_append_left _ hbatch
  exact deletes_of_mem_batches hmem

theorem length_batches_keys (keys : List String) :
    (batches Client.maxDeletions keys).length = (keys.length + 999) / 1000 :=
  length_batches (by decide) keys

theorem flatten_of_batches {sent rest : List (List String)}
    (hall : batches Client.maxDeletions keys = sent ++ rest) :
    sent.flatten <+: keys ∧ (rest = [] → sent.flatten = keys) := by
  have hkeys := flatten_batches Client.maxDeletions keys
  rw [hall, List.flatten_append] at hkeys
  refine ⟨⟨rest.flatten, hkeys⟩, fun hrest => ?_⟩
  rw [hrest, List.flatten_nil, List.append_nil] at hkeys
  exact hkeys

theorem removesInBatches_of_all {log : List Exchange} (hlog : exchanges events = log)
    (hsent : log.map Prod.fst = (batches Client.maxDeletions keys).map (deletion c bucket))
    (hanswered : ∀ x ∈ log, Answered x)
    (htotal : keys ≠ [] →
      (prints events).getLast? = some (totalLine (deletedObjects log).length))
    (hnothing : keys = [] → events = [.printed "No objects found\n"]) :
    RemovesInBatches c bucket keys (batches Client.maxDeletions keys) events (.ok ()) := by
  subst hlog
  have hall := (List.append_nil (batches Client.maxDeletions keys)).symm
  obtain ⟨hstarted, hflatten⟩ := flatten_of_batches hall
  constructor
  · exact forall₂_deletes hall hsent
  · exact hstarted
  · constructor
    · intro _ i x hx _
      exact hanswered x (List.mem_of_getElem? hx)
    · intro _
      exact ⟨hflatten rfl, length_batches_keys keys⟩
  · intro i x hx hfailed
    exact absurd (hanswered x (List.mem_of_getElem? hx)) hfailed
  · exact ⟨fun _ => hanswered, fun _ => rfl⟩
  · exact fun hne _ => htotal hne
  · exact hnothing

theorem removesInBatches_of_failed {sent rest : List (List String)} {batch : List String}
    {log : List Exchange} {x : Exchange} (hlog : exchanges events = log ++ [x])
    (hall : batches Client.maxDeletions keys = sent ++ batch :: rest)
    (hsent : log.map Prod.fst = sent.map (deletion c bucket)) (hanswered : ∀ x ∈ log, Answered x)
    (hx : x.1 = deletion c bucket batch) (hfailed : ¬Answered x) (hkeys : keys ≠ [])
    (fault : CommandFault) :
    RemovesInBatches c bucket keys (sent ++ [batch]) events (.error fault) := by
  have hsplit : batches Client.maxDeletions keys = (sent ++ [batch]) ++ rest := by
    rw [hall, List.append_assoc, List.singleton_append]
  have hrequests : (log ++ [x]).map Prod.fst = (sent ++ [batch]).map (deletion c bucket) := by
    rw [List.map_append, List.map_append, hsent, List.map_singleton, hx, List.map_singleton]
  have hlength : log.length = sent.length := by
    rw [← List.length_map, hsent, List.length_map]
  have hcount := length_batches_keys keys
  rw [hsplit, List.length_append, List.length_append, List.length_singleton] at hcount
  have hmem : x ∈ exchanges events := by
    rw [hlog]
    exact List.mem_append_right _ List.mem_cons_self
  obtain ⟨hstarted, hflatten⟩ := flatten_of_batches hsplit
  constructor
  · rw [hlog]
    exact forall₂_deletes hsplit hrequests
  · exact hstarted
  · rw [hlog, ← hcount, List.length_append, List.length_singleton]
    constructor
    · rintro ⟨_, hnone⟩ i y hy hi
      rcases of_getElem?_concat hy with hy | ⟨rfl, _⟩
      · exact hanswered y (List.mem_of_getElem? hy)
      · omega
    · intro hothers
      -- the one that failed would be among the others if more of them were left
      have hrest : rest = [] := by
        by_contra hmore
        have hpos := List.length_pos_iff.2 hmore
        exact hfailed (hothers log.length x List.getElem?_concat_length (by omega))
      exact ⟨hflatten hrest, by rw [hrest]; rfl⟩
  · intro i y hy hunread
    rw [hlog] at hy ⊢
    rcases of_getElem?_concat hy with hy | ⟨rfl, _⟩
    · exact absurd (hanswered y (List.mem_of_getElem? hy)) hunread
    · rw [List.length_append]
      rfl
  · exact ⟨(nomatch ·), fun hread => absurd (hread x hmem) hfailed⟩
  · exact fun _ hread => absurd (hread x hmem) hfailed
  · exact fun hnone => absurd hnone hkeys

theorem ForcedRemoval.removesInBatches {outcome : Except CommandFault Unit}
    (h : ForcedRemoval c bucket keys events outcome) :
    ∃ sent, RemovesInBatches c bucket keys sent events outcome := by
  cases h with
  | nothing hkeys =>
    subst hkeys
    refine ⟨_, removesInBatches_of_all rfl ?_ (fun x hx => nomatch hx)
      (fun hne => absurd rfl hne) fun _ => rfl⟩
    rw [batches]
    rfl
  | failed hkeys h =>
    have hends := h.ends
    generalize hall : batches Client.maxDeletions keys = all at hends
    generalize hlog : exchanges events = log at hends
    cases hends with
    | failed rest _ hsent hanswered hx hfailed =>
      exact ⟨_, removesInBatches_of_failed hlog hall hsent hanswered hx hfailed hkeys _⟩
  | @removed events total hkeys h =>
    have hends := h.ends
    generalize hall : batches Client.maxDeletions keys = all at hends
    generalize hlog : exchanges events = log at hends
    cases hends with
    | all hsent hanswered =>
      have hlog' : exchanges
          (events ++ [.printed (totalLine (0 + (deletedObjects log).length))]) = log := by
        rw [exchanges_concat_printed, hlog]
      refine ⟨_, removesInBatches_of_all hlog' ?_ hanswered (fun _ => ?_)
        fun hnone => absurd hnone hkeys⟩
      · rw [hall, hsent]
      · rw [prints_append, Nat.zero_add]
        exact List.getLast?_concat

/-! ### The whole command -/

/-- The session in which the objects under a prefix are listed, page after page. -/
def listingSession (c : Client) (bucket start : String) :
    Session (Except Fault (Chunk StoredObject)) :=
  .ofDialogue (c.listObjects bucket { keyPrefix := some start } .merge).run

theorem transcript_removeAll {outcome : Except CommandFault Unit} :
    Transcript (removeAll c bucket start true).run events outcome ↔
      (∃ fault, Transcript (listingSession c bucket start) events (.error fault) ∧
        outcome = .error (.service .listObjects fault)) ∨
      ∃ listing deletions chunk, Transcript (listingSession c bucket start) listing (.ok chunk) ∧
        ForcedRemoval c bucket (chunk.items.map StoredObject.key) deletions outcome ∧
        events = listing ++ deletions := by
  rw [removeAll_eq, Act.transcript_bind]
  constructor
  · rintro (⟨_, hlisting, rfl⟩ | ⟨listing, deletions, chunk, hlisting, hrest, rfl⟩)
    · obtain ⟨fault, hfault, rfl⟩ := Act.transcript_perform_error.1 hlisting
      exact .inl ⟨fault, hfault, rfl⟩
    · exact .inr ⟨listing, deletions, chunk, Act.transcript_perform_ok.1 hlisting,
        transcript_removeListed.1 hrest, rfl⟩
  · rintro (⟨fault, hlisting, rfl⟩ | ⟨listing, deletions, chunk, hlisting, hrest, rfl⟩)
    · exact .inl ⟨_, Act.transcript_perform_error.2 ⟨fault, hlisting, rfl⟩, rfl⟩
    · exact .inr ⟨listing, deletions, chunk, Act.transcript_perform_ok.2 hlisting,
        transcript_removeListed.2 hrest, rfl⟩

theorem run_remove {path : String} (hpath : ObjectPath.readObject path = .ok (bucket, start))
    (c : Client) (versionId : Option String) (force : Bool) :
    (remove c path versionId true force).run = (removeAll c bucket start force).run := by
  rw [remove, Act.objectPath, hpath]
  rfl

theorem exists_forcedRemoval (c : Client) (bucket : String) (keys : List String)
    (replies : Nat → Except Fault Http.Response) :
    ∃ deletions outcome, ForcedRemoval c bucket keys deletions outcome ∧
      AnsweredBy replies (exchanges deletions) := by
  by_cases hkeys : keys = []
  · exact ⟨_, _, .nothing hkeys, fun i x hx => nomatch hx⟩
  obtain ⟨events, outcome, h, hanswered⟩ :=
    exists_batchwise c bucket 0 (batches Client.maxDeletions keys) replies
  rcases outcome with fault | total
  · exact ⟨_, _, .failed hkeys h, hanswered⟩
  · refine ⟨_, _, .removed hkeys h, ?_⟩
    rw [exchanges_concat_printed]
    exact hanswered

/-- What a forced removal does after its listing. -/
structure RemovesListed (c : Client) (bucket start : String)
    (removal : Session (Except CommandFault Unit)) : Prop where
  /-- The listing comes first, and only what it comes to is deleted. -/
  only : ∀ {events : List Event} {outcome : Except CommandFault Unit},
    Transcript removal events outcome → ∃ listing deletions result,
      events = listing ++ deletions ∧ Transcript (listingSession c bucket start) listing result ∧
      match result with
      | .error fault => deletions = [] ∧ outcome = .error (.service .listObjects fault)
      | .ok chunk => ∃ sent,
          RemovesInBatches c bucket (chunk.items.map StoredObject.key) sent deletions outcome
  /-- Whatever is listed and whatever the deletions are answered, there is a removal. -/
  exists_removal : ∀ {listing : List Event} {chunk : Chunk StoredObject},
    Transcript (listingSession c bucket start) listing (.ok chunk) →
    ∀ replies : Nat → Except Fault Http.Response, ∃ deletions outcome sent,
      Transcript removal (listing ++ deletions) outcome ∧
        AnsweredBy replies (exchanges deletions) ∧
        RemovesInBatches c bucket (chunk.items.map StoredObject.key) sent deletions outcome

/-- **A forced removal deletes what was listed, batch by batch.** -/
theorem removesListed_of_forced {path : String}
    (hpath : ObjectPath.readObject path = .ok (bucket, start)) (c : Client)
    (versionId : Option String) :
    RemovesListed c bucket start (remove c path versionId true true).run := by
  rw [run_remove hpath]
  constructor
  · intro events outcome h
    rcases transcript_removeAll.1 h with
      ⟨fault, hlisting, rfl⟩ | ⟨listing, deletions, chunk, hlisting, hrest, rfl⟩
    · exact ⟨events, [], _, (List.append_nil events).symm, hlisting, rfl, rfl⟩
    · exact ⟨listing, deletions, _, rfl, hlisting, hrest.removesInBatches⟩
  · intro listing chunk hlisting replies
    obtain ⟨deletions, outcome, hrest, hanswered⟩ :=
      exists_forcedRemoval c bucket (chunk.items.map StoredObject.key) replies
    obtain ⟨sent, hsent⟩ := hrest.removesInBatches
    exact ⟨deletions, outcome, sent,
      transcript_removeAll.2 (.inr ⟨listing, deletions, chunk, hlisting, hrest, rfl⟩),
      hanswered, hsent⟩

/-- A page with two keys. -/
def twoKeys : String :=
  "<ListBucketResult><Contents><Key>p/1</Key></Contents><Contents><Key>p/2</Key></Contents>" ++
  "</ListBucketResult>"

/-- An answer that says that one of them could not be deleted. -/
def halfDeleted : String :=
  "<DeleteResult><Deleted><Key>p/1</Key></Deleted>" ++
  "<Error><Key>p/2</Key><Code>AccessDenied</Code></Error></DeleteResult>"

theorem removal_of_two_keys :
    ∃ (c : Client) (listing deletions : List Event) (sent : List (List String)),
      Transcript (remove c "s3://b/p" none true true).run (listing ++ deletions) (.ok ()) ∧
        RemovesInBatches c "b" ["p/1", "p/2"] sent deletions (.ok ()) ∧
        sent.flatten = ["p/1", "p/2"] ∧ sent.length = 1 ∧
        (prints deletions).getLast? = some "Total deleted: 1 objects\n" := by
  let c : Client := Client.ofConfig {} ⟨2024, 3, 5, 7, 8, 9, 2⟩
  let reply : Except Fault Http.Response := .ok ⟨200, [], ⟨[utf8 halfDeleted], none⟩⟩
  have hpath : ObjectPath.readObject "s3://b/p" = .ok ("b", "p") := by decide +kernel
  have hlisted : ((listingSession c "b" "p").hold
      [.ok ⟨200, [], ⟨[utf8 twoKeys], none⟩⟩]).any (fun (_, result) =>
        result.toOption.any fun chunk => chunk.items.map StoredObject.key = ["p/1", "p/2"]) =
      true := by
    decide +kernel
  rcases hhold : (listingSession c "b" "p").hold [.ok ⟨200, [], ⟨[utf8 twoKeys], none⟩⟩] with
    _ | ⟨log, result⟩
  · rw [hhold] at hlisted
    cases hlisted
  rw [hhold, Option.any_some] at hlisted
  rcases result with fault | chunk
  · cases hlisted
  have hkeys : chunk.items.map StoredObject.key = ["p/1", "p/2"] := of_decide_eq_true hlisted
  obtain ⟨listing, hlisting, _⟩ := held_iff.1 (held_of_hold hhold)
  obtain ⟨deletions, outcome, sent, htranscript, hreplies, hremoves⟩ :=
    (removesListed_of_forced hpath c none).exists_removal hlisting fun _ => reply
  rw [hkeys] at hremoves
  have hdeleted : (readOf? DeletionResult.read reply).map DeletionResult.deleted =
      some [{ key := "p/1" }] := by
    decide +kernel
  have hanswered : ∀ x ∈ exchanges deletions, Answered x := by
    intro x hx
    obtain ⟨i, hi⟩ := List.getElem?_of_mem hx
    rw [Answered, hreplies i x hi, ← Option.isSome_map, hdeleted]
    rfl
  obtain ⟨hflatten, hlength⟩ := hremoves.all_iff.2 fun i x hx _ =>
    hanswered x (List.mem_of_getElem? hx)
  have hone := hremoves.requests.length_eq
  rw [hlength, List.length_map] at hone
  obtain ⟨x, hx⟩ := List.length_eq_one_iff.1 hone.symm
  have hcount : (deletedObjects (exchanges deletions)).length = 1 := by
    rw [hx, deletedObjects, List.flatMap_singleton, hreplies 0 x (by rw [hx]; rfl), hdeleted]
    rfl
  have hlast := hremoves.total (List.cons_ne_nil _ _) hanswered
  rw [hcount] at hlast
  have hdone := hremoves.done_iff.2 hanswered
  subst hdone
  exact ⟨c, listing, deletions, sent, htranscript, hremoves, hflatten, hlength, hlast⟩

end Command

end ObjectStore
