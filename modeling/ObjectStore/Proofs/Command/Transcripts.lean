import ObjectStore.Command.Run
/-!
# Transcripts of sessions

A transcript tells everything that can be seen of a session, in its order: what was sent, with the
answers, what was printed and typed, and which files were opened.  The transcripts of a command
are put together from those of its parts (`Act.transcript_bind`), and a command ends at its first
fault.
-/

namespace ObjectStore

/-- A request with what it was answered by. -/
abbrev Exchange : Type := Http.Request × Except Fault Http.Response

namespace Command

/-- What can be seen of a session. -/
inductive Event where
  | exchanged (request : Http.Request) (answer : Except Fault Http.Response)
  | printed (text : String)
  | typed (line : String)
  | opened (name : String) (content : Except InputFault Bytes)

namespace Event

def exchange? : Event → Option Exchange
  | exchanged request answer => some (request, answer)
  | _ => none

def text? : Event → Option String
  | printed text => some text
  | _ => none

end Event

def exchanges (events : List Event) : List Exchange := events.filterMap Event.exchange?

/-- What was printed, print by print. -/
def prints (events : List Event) : List String := events.filterMap Event.text?

theorem exchanges_append (first second : List Event) :
    exchanges (first ++ second) = exchanges first ++ exchanges second := List.filterMap_append

theorem exchanges_concat_printed (events : List Event) (text : String) :
    exchanges (events ++ [.printed text]) = exchanges events := by
  rw [exchanges_append]
  exact List.append_nil _

theorem prints_append (first second : List Event) :
    prints (first ++ second) = prints first ++ prints second := List.filterMap_append

/-- The session can be held to the end with these events and this value. -/
inductive Session.Transcript {α : Type} : Session α → List Event → α → Prop
  | done (a : α) : Transcript (.done a) [] a
  | send {q : Http.Request} {next : Except Fault Http.Response → Session α}
      {r : Except Fault Http.Response} {events : List Event} {a : α}
      (h : Transcript (next r) events a) :
      Transcript (.send q next) (.exchanged q r :: events) a
  | print {text : String} {next : Session α} {events : List Event} {a : α}
      (h : Transcript next events a) : Transcript (.print text next) (.printed text :: events) a
  | readLine {next : String → Session α} {line : String} {events : List Event} {a : α}
      (h : Transcript (next line) events a) :
      Transcript (.readLine next) (.typed line :: events) a
  | contents {name : String} {next : Except InputFault Bytes → Session α}
      {content : Except InputFault Bytes} {events : List Event} {a : α}
      (h : Transcript (next content) events a) :
      Transcript (.contents name next) (.opened name content :: events) a

namespace Session

variable {α β : Type} {events : List Event}

theorem Transcript.of_bind {s : Session α} {f : α → Session β} {b : β}
    (h : Transcript (s.bind f) events b) :
    ∃ first second a, Transcript s first a ∧ Transcript (f a) second b ∧
      events = first ++ second := by
  induction s generalizing events with
  | done a => exact ⟨[], events, a, .done a, h, rfl⟩
  | send q next ih =>
    cases h with
    | send h =>
      obtain ⟨first, second, a, hfirst, hsecond, rfl⟩ := ih _ h
      exact ⟨_, second, a, .send hfirst, hsecond, rfl⟩
  | print text next ih =>
    cases h with
    | print h =>
      obtain ⟨first, second, a, hfirst, hsecond, rfl⟩ := ih h
      exact ⟨_, second, a, .print hfirst, hsecond, rfl⟩
  | readLine next ih =>
    cases h with
    | readLine h =>
      obtain ⟨first, second, a, hfirst, hsecond, rfl⟩ := ih _ h
      exact ⟨_, second, a, .readLine hfirst, hsecond, rfl⟩
  | contents name next ih =>
    cases h with
    | contents h =>
      obtain ⟨first, second, a, hfirst, hsecond, rfl⟩ := ih _ h
      exact ⟨_, second, a, .contents hfirst, hsecond, rfl⟩
  | unfinished => cases h

theorem Transcript.bind {s : Session α} {f : α → Session β} {a : α} {b : β}
    {second : List Event} (h : Transcript s events a) (hf : Transcript (f a) second b) :
    Transcript (s.bind f) (events ++ second) b := by
  induction h with
  | done a => exact hf
  | send _ ih => exact .send (ih hf)
  | print _ ih => exact .print (ih hf)
  | readLine _ ih => exact .readLine (ih hf)
  | contents _ ih => exact .contents (ih hf)

theorem transcript_done {a b : α} : Transcript (.done a) events b ↔ events = [] ∧ b = a := by
  constructor
  · intro h
    cases h
    exact ⟨rfl, rfl⟩
  · rintro ⟨rfl, rfl⟩
    exact .done b

theorem transcript_exchange {q : Http.Request} {result : Except Fault Http.Response → α} {a : α} :
    Transcript (ofDialogue (.ask q fun r => .done (result r))) events a ↔
      ∃ r, events = [.exchanged q r] ∧ a = result r := by
  constructor
  · intro h
    cases h with
    | send h =>
      obtain ⟨rfl, rfl⟩ := transcript_done.1 h
      exact ⟨_, rfl, rfl⟩
  · rintro ⟨r, rfl, rfl⟩
    exact .send (.done _)

end Session

namespace Act

open Session

variable {α β : Type} {events : List Event}

theorem transcript_bind {x : Act α} {f : α → Act β} {b : Except CommandFault β} :
    Transcript (x >>= f).run events b ↔
      (∃ fault, Transcript x.run events (.error fault) ∧ b = .error fault) ∨
      ∃ first second a, Transcript x.run first (.ok a) ∧ Transcript (f a).run second b ∧
        events = first ++ second := by
  rw [ExceptT.run_bind]
  constructor
  · intro h
    obtain ⟨first, second, result, hfirst, hsecond, rfl⟩ := Transcript.of_bind h
    rcases result with fault | a
    · obtain ⟨rfl, rfl⟩ := transcript_done.1 hsecond
      rw [List.append_nil]
      exact .inl ⟨fault, hfirst, rfl⟩
    · exact .inr ⟨first, second, a, hfirst, hsecond, rfl⟩
  · rintro (⟨fault, h, rfl⟩ | ⟨first, second, a, hfirst, hsecond, rfl⟩)
    · rw [← List.append_nil events]
      exact h.bind (.done _)
    · exact hfirst.bind hsecond

/-- A command ends well if both of its parts do. -/
theorem transcript_bind_ok {x : Act α} {f : α → Act β} {b : β} :
    Transcript (x >>= f).run events (.ok b) ↔
      ∃ first second a, Transcript x.run first (.ok a) ∧ Transcript (f a).run second (.ok b) ∧
        events = first ++ second := by
  rw [transcript_bind]
  constructor
  · rintro (⟨fault, -, hfault⟩ | h)
    · cases hfault
    · exact h
  · exact .inr

theorem transcript_lift {e b : Except CommandFault α} :
    Transcript (lift e).run events b ↔ events = [] ∧ b = e := transcript_done

theorem transcript_pure {a : α} {b : Except CommandFault α} :
    Transcript (pure a : Act α).run events b ↔ events = [] ∧ b = .ok a := transcript_done

theorem transcript_print {text : String} {b : Except CommandFault Unit} :
    Transcript (print text).run events b ↔ events = [.printed text] ∧ b = .ok () := by
  constructor
  · intro h
    cases h with
    | print h =>
      obtain ⟨rfl, rfl⟩ := transcript_done.1 h
      exact ⟨rfl, rfl⟩
  · rintro ⟨rfl, rfl⟩
    exact .print (.done _)

theorem transcript_print_bind {text : String} {f : Unit → Act β} {b : Except CommandFault β} :
    Transcript (print text >>= f).run events b ↔
      ∃ rest, Transcript (f ()).run rest b ∧ events = .printed text :: rest := by
  constructor
  · intro h
    cases h with
    | print h => exact ⟨_, h, rfl⟩
  · rintro ⟨rest, h, rfl⟩
    exact .print h

theorem transcript_perform {activity : Activity} {op : Operation α} {b : Except CommandFault α} :
    Transcript (perform activity op).run events b ↔
      ∃ result, Transcript (ofDialogue op.run) events result ∧
        b = result.mapError (.service activity) := by
  constructor
  · intro h
    obtain ⟨first, second, result, hfirst, hsecond, rfl⟩ := Transcript.of_bind h
    obtain ⟨rfl, rfl⟩ := transcript_done.1 hsecond
    rw [List.append_nil]
    exact ⟨result, hfirst, rfl⟩
  · rintro ⟨result, h, rfl⟩
    rw [← List.append_nil events]
    exact h.bind (.done _)

theorem mapError_eq_ok_iff {ε : Type} {f : ε → CommandFault} {e : Except ε α} {a : α} :
    e.mapError f = .ok a ↔ e = .ok a := by
  cases e with
  | error fault => exact ⟨(nomatch ·), (nomatch ·)⟩
  | ok a' => exact ⟨fun h => congrArg Except.ok (Except.ok.inj h),
      fun h => congrArg Except.ok (Except.ok.inj h)⟩

theorem mapError_eq_error_iff {ε : Type} {f : ε → CommandFault} {e : Except ε α}
    {x : CommandFault} : e.mapError f = .error x ↔ ∃ fault, e = .error fault ∧ x = f fault := by
  cases e with
  | error fault =>
    constructor
    · intro h
      cases h
      exact ⟨fault, rfl, rfl⟩
    · rintro ⟨_, h, rfl⟩
      cases h
      rfl
  | ok a => exact ⟨(nomatch ·), fun ⟨_, h, _⟩ => nomatch h⟩

theorem transcript_perform_ok {activity : Activity} {op : Operation α} {a : α} :
    Transcript (perform activity op).run events (.ok a) ↔
      Transcript (ofDialogue op.run) events (.ok a) := by
  rw [transcript_perform]
  constructor
  · rintro ⟨result, h, hresult⟩
    rwa [mapError_eq_ok_iff.1 hresult.symm] at h
  · exact fun h => ⟨.ok a, h, rfl⟩

theorem transcript_perform_error {activity : Activity} {op : Operation α} {x : CommandFault} :
    Transcript (perform activity op).run events (.error x) ↔
      ∃ fault, Transcript (ofDialogue op.run) events (.error fault) ∧
        x = .service activity fault := by
  rw [transcript_perform]
  constructor
  · rintro ⟨result, h, hresult⟩
    obtain ⟨fault, rfl, hx⟩ := mapError_eq_error_iff.1 hresult.symm
    exact ⟨fault, h, hx⟩
  · rintro ⟨fault, h, rfl⟩
    exact ⟨.error fault, h, rfl⟩

theorem transcript_objectPath_ok {path : String} {p : String × String} :
    Transcript (objectPath path).run events (.ok p) ↔
      events = [] ∧ ObjectPath.readObject path = .ok p := by
  rw [objectPath, transcript_lift, eq_comm (a := Except.ok p), mapError_eq_ok_iff]

end Act

end Command

end ObjectStore
