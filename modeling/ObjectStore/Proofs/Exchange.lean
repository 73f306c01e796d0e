import ObjectStore.Proofs.Dialogue
/-!
# Single exchanges

An operation that sends one request and ends is settled by the request and by what becomes of
the answer.  `run_bind_of_exchange` puts what follows without sending anything behind it, so
that an operation of the client is described by the descriptions of those it is made of.
-/

namespace ObjectStore

namespace Operation

variable {α β : Type}

/-- What follows an exchange without sending anything is done to its result. -/
theorem run_bind_of_exchange {op : Operation α} {q : Http.Request}
    {result : Except Fault Http.Response → Except Fault α} {next : α → Operation β}
    {g : α → Except Fault β} (hop : op.run = .ask q fun answer => .done (result answer))
    (hnext : ∀ a, (next a).run = .done (g a)) :
    (op >>= next).run = .ask q fun answer => .done ((result answer).bind g) := by
  rw [ExceptT.run_bind, hop]
  refine congrArg (Dialogue.ask q) (funext fun answer => ?_)
  show Dialogue.bind (.done (result answer)) _ = _
  rw [Dialogue.bind]
  rcases result answer with f | a
  · rfl
  · exact hnext a

/-- What sends something has not failed before. -/
theorem exists_ok_of_sent {e : Except Fault α} {f : α → Operation β} {q : Http.Request}
    {next : Except Fault Http.Response → Dialogue Http.Request (Except Fault Http.Response)
      (Except Fault β)}
    (hsent : (Operation.lift e >>= f).run = .ask q next) :
    ∃ a, e = .ok a ∧ (f a).run = .ask q next := by
  cases e with
  | error fault => cases hsent
  | ok a => exact ⟨a, rfl, hsent⟩

/-- An operation that is one exchange does with an answer what it is said to do. -/
theorem next_of_exchange {op : Operation α} {q q' : Http.Request}
    {result : Except Fault Http.Response → Except Fault α}
    {next : Except Fault Http.Response → Dialogue Http.Request (Except Fault Http.Response)
      (Except Fault α)}
    (hop : op.run = .ask q fun answer => .done (result answer)) (hsent : op.run = .ask q' next)
    (answer : Except Fault Http.Response) : next answer = .done (result answer) := by
  rw [hop] at hsent
  injection hsent with _ hnext
  rw [← hnext]

end Operation

namespace Client

open Operation

variable {α : Type} {c : Client}

theorem accept_of_mem {d : Descriptor} {r : Http.Response} (h : r.status ∈ d.expected) :
    accept d r = .ok r := by
  rw [accept, if_pos (List.contains_iff_mem.2 h)]

theorem accept_of_notMem {d : Descriptor} {r : Http.Response} (h : r.status ∉ d.expected) :
    accept d r = .error (failure d.context r) := by
  rw [accept, if_neg fun hcontains => h (List.contains_iff_mem.1 hcontains)]

theorem run_dispatch (d : Descriptor) :
    (c.dispatch d).run =
      .ask (c.sender.build c.now d) fun answer => .done (answer.bind (accept d)) := by
  have hsend : (Operation.send (c.sender.build c.now d)).run =
      .ask (c.sender.build c.now d) fun answer => .done answer := rfl
  exact run_bind_of_exchange hsend fun _ => rfl

theorem run_fetch (d : Descriptor) (shape : Shape) (read : Bytes → Except Xml.Fault α) :
    (c.fetch d shape read).run = .ask (c.sender.build c.now d) fun answer =>
      .done ((answer.bind (accept d)).bind (readBody shape d.context read)) :=
  run_bind_of_exchange (run_dispatch d) fun _ => rfl

/-- What draining makes of an answer. -/
def drained (d : Descriptor) (answer : Except Fault Http.Response) :
    Except Fault Http.Response :=
  match answer.bind (accept d) with
  | .error f => .error f
  | .ok r =>
    match r.body.collect with
    | .error f => .error (.transport f)
    | .ok _ => .ok r

theorem run_dispatchAndDrain (d : Descriptor) :
    (c.dispatchAndDrain d).run =
      .ask (c.sender.build c.now d) fun answer => .done (drained d answer) := by
  rw [dispatchAndDrain, ExceptT.run_bind, run_dispatch]
  refine congrArg (Dialogue.ask _) (funext fun answer => ?_)
  show Dialogue.bind (.done (answer.bind (accept d))) _ = _
  rw [drained, Dialogue.bind]
  rcases answer.bind (accept d) with f | r
  · rfl
  · simp only
    rcases r.body.collect with f | _
    · rfl
    · rfl

/-- What is drained is a response with an expected status and a whole body. -/
theorem drained_eq_ok_iff {d : Descriptor} {answer : Except Fault Http.Response}
    {r : Http.Response} : drained d answer = .ok r ↔
      answer = .ok r ∧ r.status ∈ d.expected ∧ ∃ content, r.body.collect = .ok content := by
  constructor
  · intro h
    rcases answer with f | r'
    · cases h
    by_cases hstatus : r'.status ∈ d.expected
    · have haccepted : Except.bind (.ok r') (accept d) = .ok r' := accept_of_mem hstatus
      rw [drained, haccepted] at h
      rcases hbody : r'.body.collect with f | content
      · simp only [hbody] at h
        cases h
      · simp only [hbody] at h
        cases h
        exact ⟨rfl, hstatus, content, hbody⟩
    · have hrefused : Except.bind (.ok r') (accept d) = .error (failure d.context r') :=
        accept_of_notMem hstatus
      rw [drained, hrefused] at h
      cases h
  · rintro ⟨rfl, hstatus, content, hbody⟩
    have haccepted : Except.bind (.ok r) (accept d) = .ok r := accept_of_mem hstatus
    rw [drained, haccepted]
    simp only [hbody]

end Client

end ObjectStore
