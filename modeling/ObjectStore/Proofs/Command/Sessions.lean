import ObjectStore.Proofs.Command.Transcripts
import ObjectStore.Proofs.Exchange
/-!
# Sessions that are held to the end

`Session.Held session log value` says that a session can come to a value after the exchanges of
a log, whatever is printed and typed in between; the logs of a session are those of its
transcripts (`Session.held_iff`).  The lemmas take a command apart: what was exchanged in the whole
is what was exchanged in the parts (`Act.held_bind`), and a command ends at its first fault.
-/

namespace ObjectStore

namespace Command

/-- The session can be held to the end with these exchanges and this value; what is printed,
read and typed besides is left open. -/
inductive Session.Held {α : Type} : Session α → List Exchange → α → Prop
  | done (a : α) : Held (.done a) [] a
  | send {q : Http.Request} {next : Except Fault Http.Response → Session α}
      {r : Except Fault Http.Response} {log : List Exchange} {a : α} (h : Held (next r) log a) :
      Held (.send q next) ((q, r) :: log) a
  | print {text : String} {next : Session α} {log : List Exchange} {a : α}
      (h : Held next log a) : Held (.print text next) log a
  | readLine {next : String → Session α} {log : List Exchange} {a : α} (line : String)
      (h : Held (next line) log a) : Held (.readLine next) log a
  | contents {name : String} {next : Except InputFault Bytes → Session α}
      {log : List Exchange} {a : α} (content : Except InputFault Bytes)
      (h : Held (next content) log a) : Held (.contents name next) log a

namespace Session

variable {α β : Type} {log : List Exchange}

theorem held_iff {s : Session α} {log : List Exchange} {a : α} :
    Held s log a ↔ ∃ events, Transcript s events a ∧ exchanges events = log := by
  constructor
  · intro h
    induction h with
    | done a => exact ⟨[], .done a, rfl⟩
    | send _ ih =>
      obtain ⟨events, h, rfl⟩ := ih
      exact ⟨_, .send h, rfl⟩
    | print _ ih =>
      obtain ⟨events, h, rfl⟩ := ih
      exact ⟨_, .print h, rfl⟩
    | readLine line _ ih =>
      obtain ⟨events, h, rfl⟩ := ih
      exact ⟨_, .readLine h, rfl⟩
    | contents content _ ih =>
      obtain ⟨events, h, rfl⟩ := ih
      exact ⟨_, .contents h, rfl⟩
  · rintro ⟨events, h, rfl⟩
    induction h with
    | done a => exact .done a
    | send _ ih => exact .send ih
    | print _ ih => exact .print ih
    | readLine _ ih => exact .readLine _ ih
    | contents _ ih => exact .contents _ ih

theorem Held.of_ask {q : Http.Request} {a : α}
    {next : Except Fault Http.Response → Dialogue Http.Request (Except Fault Http.Response) α}
    (h : Held (ofDialogue (.ask q next)) log a) :
    ∃ r rest, log = (q, r) :: rest ∧ Held (ofDialogue (next r)) rest a := by
  cases h with
  | send h => exact ⟨_, _, rfl, h⟩

/-- Hold a session against some answers, with `y` for each line that is asked for. -/
def hold : Session α → List (Except Fault Http.Response) →
    Option (List Exchange × α)
  | .done a, _ => some ([], a)
  | .send q next, r :: rs => ((next r).hold rs).map fun (log, a) => ((q, r) :: log, a)
  | .send _ _, [] => none
  | .print _ next, rs => next.hold rs
  | .readLine next, rs => (next "y").hold rs
  | .contents _ _, _ => none
  | .unfinished, _ => none

theorem held_of_hold {s : Session α} {rs : List (Except Fault Http.Response)}
    {log : List Exchange} {a : α} (h : s.hold rs = some (log, a)) : Held s log a := by
  induction s generalizing rs log with
  | done a =>
    cases h
    exact .done _
  | send q next ih =>
    cases rs with
    | nil => cases h
    | cons r rs =>
      obtain ⟨⟨log, a⟩, hrest, he⟩ := Option.map_eq_some_iff.1 h
      cases he
      exact .send (ih r hrest)
  | print text next ih => exact .print (ih h)
  | readLine next ih => exact .readLine "y" (ih _ h)
  | contents name next ih => cases h
  | unfinished => cases h

end Session

namespace Act

variable {α β : Type} {log : List Exchange}

/-- A command ends at its first fault. -/
theorem held_bind {x : Act α} {f : α → Act β} {b : Except CommandFault β}
    (h : Session.Held (x >>= f).run log b) :
    (∃ fault, Session.Held x.run log (.error fault) ∧ b = .error fault) ∨
      ∃ first second a, Session.Held x.run first (.ok a) ∧ Session.Held (f a).run second b ∧
        log = first ++ second := by
  obtain ⟨events, hevents, rfl⟩ := Session.held_iff.1 h
  rcases transcript_bind.1 hevents with ⟨fault, hfault, rfl⟩ | ⟨first, second, a, hfirst, hsecond, rfl⟩
  · exact .inl ⟨fault, Session.held_iff.2 ⟨events, hfault, rfl⟩, rfl⟩
  · exact .inr ⟨_, _, a, Session.held_iff.2 ⟨first, hfirst, rfl⟩,
      Session.held_iff.2 ⟨second, hsecond, rfl⟩, exchanges_append first second⟩

theorem held_perform {activity : Activity} {op : Operation α} {b : Except CommandFault α}
    (h : Session.Held (perform activity op).run log b) :
    ∃ result, Session.Held (Session.ofDialogue op.run) log result ∧
      b = result.mapError (.service activity) := by
  obtain ⟨events, hevents, rfl⟩ := Session.held_iff.1 h
  obtain ⟨result, hresult, hb⟩ := transcript_perform.1 hevents
  exact ⟨result, Session.held_iff.2 ⟨events, hresult, rfl⟩, hb⟩

theorem held_print {text : String} {b : Except CommandFault Unit}
    (h : Session.Held (print text).run log b) : log = [] ∧ b = .ok () := by
  obtain ⟨events, hevents, rfl⟩ := Session.held_iff.1 h
  obtain ⟨rfl, hb⟩ := transcript_print.1 hevents
  exact ⟨rfl, hb⟩

/-- Whether to go on: a forced command does, and any other asks. -/
def agreement (force : Bool) (question : String) : Act Bool :=
  if force then pure true else confirm question

/-- Nothing is sent to find out whether to go on. -/
theorem held_agreement {force : Bool} {question : String} {b : Except CommandFault Bool}
    (h : Session.Held (agreement force question).run log b) :
    log = [] ∧ ∃ agreed, b = .ok agreed ∧ (force = true → agreed = true) := by
  cases force with
  | true =>
    cases h
    exact ⟨rfl, true, rfl, fun _ => rfl⟩
  | false =>
    cases h with
    | print h =>
      cases h with
      | readLine line h =>
        cases h
        exact ⟨rfl, _, rfl, fun h => nomatch h⟩

end Act

end Command

end ObjectStore
