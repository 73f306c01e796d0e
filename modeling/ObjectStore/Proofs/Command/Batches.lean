import ObjectStore.Proofs.Command.Transcripts
import ObjectStore.Proofs.Exchange
/-!
# Deleting batch by batch

`Batchwise` says what is done with the next batch: it is deleted and what became of it is printed,
or the answer cannot be read and the command ends there.  The transcripts of a command that
deletes batches are exactly those (`transcript_removeBatches`).  **Of the requests at most the last
one is without an answer that can be read** (`Batchwise.ends`).
-/

namespace ObjectStore

namespace Command

open Session

/-! ### Cutting a list into batches -/

theorem flatten_batches {α : Type} (size : Nat) (l : List α) : (batches size l).flatten = l := by
  fun_induction batches size l with
  | case1 => rfl
  | case2 a l ih => rw [List.flatten_cons, ih, List.cons_append, List.take_append_drop]

theorem mem_batches {α : Type} {size : Nat} (hsize : 0 < size) {l batch : List α}
    (h : batch ∈ batches size l) : batch ≠ [] ∧ batch.length ≤ size := by
  fun_induction batches size l with
  | case1 => cases h
  | case2 a l ih =>
    rcases List.mem_cons.1 h with rfl | h
    · refine ⟨List.cons_ne_nil _ _, ?_⟩
      rw [List.length_cons, List.length_take]
      omega
    · exact ih h

theorem length_batches {α : Type} {size : Nat} (hsize : 0 < size) (l : List α) :
    (batches size l).length = (l.length + size - 1) / size := by
  fun_induction batches size l with
  | case1 =>
    show 0 = (0 + size - 1) / size
    rw [Nat.zero_add, Nat.div_eq_of_lt (Nat.sub_one_lt_of_lt hsize)]
  | case2 a l ih =>
    have hall : l.length + 1 + size - 1 = l.length + size := by omega
    rw [List.length_cons, ih, List.length_drop, List.length_cons, hall,
      Nat.add_div_right _ hsize]
    -- what is behind the first batch may be nothing, when that batch is not full
    by_cases hmore : size - 1 ≤ l.length
    · have hrest : l.length - (size - 1) + size - 1 = l.length := by omega
      rw [hrest]
    · have hrest : l.length - (size - 1) + size - 1 = size - 1 := by omega
      rw [hrest, Nat.div_eq_of_lt (Nat.sub_one_lt_of_lt hsize), Nat.div_eq_of_lt (by omega)]

/-! ### One deletion -/

/-- The request that deletes a batch of keys. -/
def deletion (c : Client) (bucket : String) (keys : List String) : Http.Request :=
  c.sender.build c.now (Client.documentDescriptor .post bucket "delete"
    (deletionRequest (keys.map fun key => { key }) false))

/-- What the client makes of the answer to a deletion. -/
def takenDeletion (bucket : String) (keys : List String) (answer : Except Fault Http.Response) :
    Except Fault DeletionResult :=
  let d := Client.documentDescriptor .post bucket "delete"
    (deletionRequest (keys.map fun key => { key }) false)
  (answer.bind (Client.accept d)).bind
    (Client.readBody .multiDelete d.context DeletionResult.read)

theorem run_deleteObjects (c : Client) (bucket : String) {keys : List String} (hne : keys ≠ [])
    (hlength : keys.length ≤ Client.maxDeletions) :
    (c.deleteObjects bucket (keys.map fun key => { key }) false none).run =
      .ask (deletion c bucket keys) fun answer => .done (takenDeletion bucket keys answer) := by
  have hempty : (keys.map fun key => ({ key } : ObjectName)).isEmpty = false := by
    simpa [List.isEmpty_iff] using hne
  have hsmall : ¬ Client.maxDeletions < (keys.map fun key => ({ key } : ObjectName)).length := by
    rw [List.length_map]
    omega
  rw [Client.deleteObjects, hempty, if_neg Bool.false_ne_true, if_neg hsmall, Client.run_fetch]
  rfl

/-- What a successful response brings, if all of it arrives. -/
def content? (r : Http.Response) : Option Bytes :=
  if r.status = 200 then r.body.collect.toOption else none

/-- What an answer brings, if it can be read. -/
def readOf? {α : Type} (read : Bytes → Except Xml.Fault α) (answer : Except Fault Http.Response) :
    Option α :=
  (answer.toOption.bind content?).bind fun s => (read s).toOption

theorem toOption_readBody {α : Type} {d : Descriptor} (h : d.expected = [200]) (shape : Shape)
    (read : Bytes → Except Xml.Fault α) (answer : Except Fault Http.Response) :
    ((answer.bind (Client.accept d)).bind (Client.readBody shape d.context read)).toOption =
      readOf? read answer := by
  rcases answer with f | r
  · rfl
  have hexpected : r.status ∈ d.expected ↔ r.status = 200 := by
    rw [h, List.mem_singleton]
  have hread : readOf? read (.ok r) = (content? r).bind fun s => (read s).toOption := rfl
  by_cases hstatus : r.status = 200
  · have haccept : Except.bind (.ok r) (Client.accept d) = .ok r :=
      Client.accept_of_mem (hexpected.2 hstatus)
    rw [haccept, hread, content?, if_pos hstatus]
    show (Client.readBody shape d.context read r).toOption = _
    rw [Client.readBody]
    rcases r.body.collect with f | s
    · rfl
    · show ((read s).mapError _).toOption = (read s).toOption
      rcases read s with f | value
      · rfl
      · rfl
  · have hrefuse : Except.bind (.ok r) (Client.accept d) = .error (Client.failure d.context r) :=
      Client.accept_of_notMem fun hmem => hstatus (hexpected.1 hmem)
    rw [hrefuse, hread, content?, if_neg hstatus]
    rfl

/-- The answer says what became of the objects. -/
def Answered (x : Exchange) : Prop := (readOf? DeletionResult.read x.2).isSome = true

/-- The objects that were deleted according to the answers. -/
def deletedObjects (log : List Exchange) : List DeletedObject :=
  log.flatMap fun x => ((readOf? DeletionResult.read x.2).map DeletionResult.deleted).getD []

theorem readOf?_eq_toOption (bucket : String) (keys : List String)
    (answer : Except Fault Http.Response) :
    readOf? DeletionResult.read answer = (takenDeletion bucket keys answer).toOption :=
  (toOption_readBody rfl .multiDelete DeletionResult.read answer).symm

variable {c : Client} {bucket : String} {keys : List String} {events : List Event}

theorem transcript_deletion (hne : keys ≠ []) (hlength : keys.length ≤ Client.maxDeletions)
    {b : Except CommandFault DeletionResult} :
    Transcript (Act.perform .deleteObjects
        (c.deleteObjects bucket (keys.map fun key => { key }) false none)).run events b ↔
      ∃ answer, events = [.exchanged (deletion c bucket keys) answer] ∧
        b = (takenDeletion bucket keys answer).mapError (.service .deleteObjects) := by
  rw [Act.transcript_perform, run_deleteObjects c bucket hne hlength]
  constructor
  · rintro ⟨result, h, rfl⟩
    obtain ⟨answer, rfl, rfl⟩ := transcript_exchange.1 h
    exact ⟨answer, rfl, rfl⟩
  · rintro ⟨answer, rfl, rfl⟩
    exact ⟨_, transcript_exchange.2 ⟨answer, rfl, rfl⟩, rfl⟩

/-! ### Batch by batch -/

/-- What is done with the batches that are left when `total` objects have been deleted. -/
inductive Batchwise (c : Client) (bucket : String) :
    Nat → List (List String) → List Event → Except CommandFault Nat → Prop
  | done (total : Nat) : Batchwise c bucket total [] [] (.ok total)
  | failed {total : Nat} {keys : List String} {rest : List (List String)}
      {answer : Except Fault Http.Response} {fault : Fault}
      (hanswer : takenDeletion bucket keys answer = .error fault) :
      Batchwise c bucket total (keys :: rest) [.exchanged (deletion c bucket keys) answer]
        (.error (.service .deleteObjects fault))
  | deleted {total : Nat} {keys : List String} {rest : List (List String)}
      {answer : Except Fault Http.Response} {r : DeletionResult} {events : List Event}
      {outcome : Except CommandFault Nat}
      (hanswer : takenDeletion bucket keys answer = .ok r)
      (hrest : Batchwise c bucket (total + r.deleted.length) rest events outcome) :
      Batchwise c bucket total (keys :: rest)
        (.exchanged (deletion c bucket keys) answer :: .printed (deletionLines r) :: events)
        outcome

theorem transcript_removeBatches {total : Nat} {all : List (List String)}
    {outcome : Except CommandFault Nat}
    (hall : ∀ keys ∈ all, keys ≠ [] ∧ keys.length ≤ Client.maxDeletions) :
    Transcript (removeBatches c bucket total all).run events outcome ↔
      Batchwise c bucket total all events outcome := by
  -- on the batches that are left; the total grows with each that is deleted
  induction all generalizing total events with
  | nil =>
    rw [removeBatches, Act.transcript_pure]
    constructor
    · rintro ⟨rfl, rfl⟩
      exact .done total
    · intro h
      cases h
      exact ⟨rfl, rfl⟩
  | cons keys all ih =>
    obtain ⟨⟨hne, hlength⟩, hall⟩ := List.forall_mem_cons.1 hall
    rw [removeBatches, Act.transcript_bind]
    constructor
    · rintro (⟨_, hfailed, rfl⟩ | ⟨first, second, r, hfirst, hsecond, rfl⟩)
      · obtain ⟨answer, rfl, htaken⟩ := (transcript_deletion hne hlength).1 hfailed
        obtain ⟨fault, hanswer, rfl⟩ := Act.mapError_eq_error_iff.1 htaken.symm
        exact .failed hanswer
      · obtain ⟨answer, rfl, htaken⟩ := (transcript_deletion hne hlength).1 hfirst
        obtain ⟨rest, hrest, rfl⟩ := Act.transcript_print_bind.1 hsecond
        exact .deleted (Act.mapError_eq_ok_iff.1 htaken.symm) ((ih hall).1 hrest)
    · intro h
      cases h with
      | @failed _ _ _ answer fault hanswer =>
        refine .inl ⟨_, (transcript_deletion hne hlength).2 ⟨answer, rfl, ?_⟩, rfl⟩
        rw [hanswer]
        rfl
      | @deleted _ _ _ answer r events _ hanswer hrest =>
        refine .inr ⟨_, _, r, (transcript_deletion hne hlength).2 ⟨answer, rfl, ?_⟩,
          Act.transcript_print_bind.2 ⟨events, (ih hall).2 hrest, rfl⟩, rfl⟩
        rw [hanswer]
        rfl

/-! ### How the batches end -/

/-- All the batches are deleted, or the answer to one of them cannot be read and it is the last
that is sent. -/
inductive Ends (c : Client) (bucket : String) (total : Nat) :
    List (List String) → List Exchange → Except CommandFault Nat → Prop
  | all {sent : List (List String)} {log : List Exchange}
      (hsent : log.map Prod.fst = sent.map (deletion c bucket)) (hlog : ∀ x ∈ log, Answered x) :
      Ends c bucket total sent log (.ok (total + (deletedObjects log).length))
  | failed {sent : List (List String)} {keys : List String} (rest : List (List String))
      {log : List Exchange} {x : Exchange} (fault : CommandFault)
      (hsent : log.map Prod.fst = sent.map (deletion c bucket)) (hlog : ∀ x ∈ log, Answered x)
      (hx : x.1 = deletion c bucket keys) (hfailed : ¬Answered x) :
      Ends c bucket total (sent ++ keys :: rest) (log ++ [x]) (.error fault)

theorem Ends.cons {total : Nat} {all : List (List String)} {log : List Exchange} {x : Exchange}
    {r : DeletionResult} {outcome : Except CommandFault Nat} (hx : x.1 = deletion c bucket keys)
    (hr : readOf? DeletionResult.read x.2 = some r)
    (h : Ends c bucket (total + r.deleted.length) all log outcome) :
    Ends c bucket total (keys :: all) (x :: log) outcome := by
  have hsent : ∀ {sent : List (List String)} {log : List Exchange},
      log.map Prod.fst = sent.map (deletion c bucket) →
      (x :: log).map Prod.fst = (keys :: sent).map (deletion c bucket) := by
    intro sent log hlog
    rw [List.map_cons, List.map_cons, hx, hlog]
  have hanswered : Answered x := by
    rw [Answered, hr]
    rfl
  cases h with
  | all hlog hall =>
    have hcount : total + (deletedObjects (x :: log)).length =
        total + r.deleted.length + (deletedObjects log).length := by
      rw [deletedObjects, List.flatMap_cons, hr, List.length_append, Nat.add_assoc]
      rfl
    rw [← hcount]
    exact .all (hsent hlog) (List.forall_mem_cons.2 ⟨hanswered, hall⟩)
  | failed rest fault hlog hall hlast hfailed =>
    exact .failed rest fault (hsent hlog) (List.forall_mem_cons.2 ⟨hanswered, hall⟩) hlast hfailed

theorem Batchwise.ends {total : Nat} {all : List (List String)}
    {outcome : Except CommandFault Nat} (h : Batchwise c bucket total all events outcome) :
    Ends c bucket total all (exchanges events) outcome := by
  induction h with
  | done total => exact .all rfl fun x hx => nomatch hx
  | @failed total keys rest answer fault hanswer =>
    have hfailed : ¬Answered (deletion c bucket keys, answer) := by
      rw [Answered, readOf?_eq_toOption bucket keys, hanswer]
      exact Bool.false_ne_true
    show Ends c bucket total ([] ++ keys :: rest) ([] ++ [(deletion c bucket keys, answer)]) _
    exact .failed rest _ rfl (fun x hx => nomatch hx) rfl hfailed
  | @deleted total keys rest answer r events outcome hanswer _ ih =>
    refine Ends.cons rfl ?_ ih
    rw [readOf?_eq_toOption bucket keys, hanswer]
    rfl

/-- The answers are the given ones, in their order. -/
def AnsweredBy (replies : Nat → Except Fault Http.Response) (log : List Exchange) : Prop :=
  ∀ i x, log[i]? = some x → x.2 = replies i

theorem exists_batchwise (c : Client) (bucket : String) (total : Nat) (all : List (List String))
    (replies : Nat → Except Fault Http.Response) :
    ∃ events outcome, Batchwise c bucket total all events outcome ∧
      AnsweredBy replies (exchanges events) := by
  induction all generalizing total replies with
  | nil => exact ⟨[], _, .done total, fun i x hx => nomatch hx⟩
  | cons keys all ih =>
    rcases hanswer : takenDeletion bucket keys (replies 0) with fault | r
    · refine ⟨_, _, .failed hanswer, fun i x hx => ?_⟩
      cases i with
      | zero =>
        cases hx
        rfl
      | succ i => cases hx
    · obtain ⟨events, outcome, hrest, hanswered⟩ :=
        ih (total + r.deleted.length) fun i => replies (i + 1)
      refine ⟨_, outcome, .deleted hanswer hrest, fun i x hx => ?_⟩
      cases i with
      | zero =>
        cases hx
        rfl
      | succ i => exact hanswered i x hx

end Command

end ObjectStore
