import ObjectStore.Client
/-!
# Dialogues under way

Two things are said of a dialogue without holding it.  `Dialogue.Asks P` says that each of its
questions satisfies `P`, whatever the answers.  `Dialogue.Within A P n` says that there are `n`
questions at most and that the value satisfies `P`, if the answers satisfy `A`.  Both go through
`bind`, so they are proved of an operation from the requests that the operation is made of.

`Running` is a dialogue that is being held: what is left of it, and whether its next question is
out.  Several of them side by side are calls that run at once.
-/

namespace ObjectStore

namespace Dialogue

variable {Q R α β : Type} {P : Q → Prop}

/-- Each question satisfies `P`, whatever the answers. -/
inductive Asks (P : Q → Prop) : Dialogue Q R α → Prop where
  | done (value : α) : Asks P (.done value)
  | ask {question : Q} {next : R → Dialogue Q R α} (hquestion : P question)
      (hnext : ∀ r, Asks P (next r)) : Asks P (.ask question next)
  | unfinished : Asks P .unfinished

theorem Asks.bind {d : Dialogue Q R α} {f : α → Dialogue Q R β} (hd : Asks P d)
    (hf : ∀ a, Asks P (f a)) : Asks P (d.bind f) := by
  induction hd with
  | done a => exact hf a
  | ask hquestion _ ih => exact .ask hquestion ih
  | unfinished => exact .unfinished

/-- As long as the answers satisfy `A`, there are `n` questions at most, and a value that is
reached satisfies `P`. -/
inductive Within (A : R → Prop) (P : α → Prop) : Nat → Dialogue Q R α → Prop where
  | done {n : Nat} {value : α} (hvalue : P value) : Within A P n (.done value)
  | ask {n : Nat} {question : Q} {next : R → Dialogue Q R α}
      (hnext : ∀ r, A r → Within A P n (next r)) : Within A P (n + 1) (.ask question next)
  | unfinished {n : Nat} : Within A P n .unfinished

theorem Within.mono {A : R → Prop} {P : α → Prop} {m n : Nat} {d : Dialogue Q R α}
    (h : d.Within A P m) (hle : m ≤ n) : d.Within A P n := by
  induction h generalizing n with
  | done hvalue => exact .done hvalue
  | ask _ ih =>
    obtain ⟨n, rfl⟩ := Nat.exists_eq_succ_of_ne_zero (Nat.ne_zero_of_lt hle)
    exact .ask fun r hr => ih r hr (Nat.le_of_succ_le_succ hle)
  | unfinished => exact .unfinished

theorem Within.bind {A : R → Prop} {P : α → Prop} {P' : β → Prop} {m n : Nat}
    {d : Dialogue Q R α} {f : α → Dialogue Q R β} (hd : d.Within A P m)
    (hf : ∀ a, P a → (f a).Within A P' n) : (d.bind f).Within A P' (m + n) := by
  induction hd with
  | done hvalue => exact (hf _ hvalue).mono (Nat.le_add_left _ _)
  | ask _ ih =>
    rw [Nat.succ_add]
    exact .ask ih
  | unfinished => exact .unfinished

theorem Within.replay {A : R → Prop} {P : α → Prop} {n : Nat} {d : Dialogue Q R α}
    (h : d.Within A P n) {rs : List R} (hrs : ∀ r ∈ rs, A r) :
    (d.replay rs).1.length ≤ n ∧ ∀ a, (d.replay rs).2.2 = some a → P a := by
  induction h generalizing rs with
  | done hvalue =>
    refine ⟨Nat.zero_le _, fun a ha => ?_⟩
    cases ha
    exact hvalue
  | @ask n question next _ ih =>
    cases rs with
    | nil => exact ⟨Nat.succ_le_succ (Nat.zero_le _), fun a ha => nomatch ha⟩
    | cons r rs =>
      obtain ⟨hlength, hvalue⟩ :=
        ih r (hrs r List.mem_cons_self) fun r' hr' => hrs r' (List.mem_cons_of_mem _ hr')
      exact ⟨Nat.succ_le_succ hlength, hvalue⟩
  | unfinished => exact ⟨Nat.zero_le _, fun a ha => nomatch ha⟩

theorem bind_assoc {γ : Type} (d : Dialogue Q R α) (f : α → Dialogue Q R β)
    (g : β → Dialogue Q R γ) : (d.bind f).bind g = d.bind fun a => (f a).bind g := by
  induction d with
  | done a => rfl
  | ask q next ih => exact congrArg (ask q) (funext ih)
  | unfinished => rfl

/-- The answers that are left over are the last ones. -/
theorem replay_suffix (d : Dialogue Q R α) (rs : List R) : (d.replay rs).2.1 <:+ rs := by
  induction d generalizing rs with
  | done a => exact List.suffix_refl rs
  | ask q next ih =>
    cases rs with
    | nil => exact List.suffix_refl []
    | cons r rs => exact (ih r rs).trans (List.suffix_cons r rs)
  | unfinished => exact List.suffix_refl rs

theorem subset_of_replay {d : Dialogue Q R α} {rs rest : List R} {qs : List Q} {value : Option α}
    (h : d.replay rs = (qs, rest, value)) : rest ⊆ rs := by
  have hsuffix := d.replay_suffix rs
  rw [h] at hsuffix
  exact hsuffix.subset

/-- A replay that comes to a value goes through a value of the first part. -/
theorem replay_bind_eq_some {d : Dialogue Q R α} {f : α → Dialogue Q R β} {rs rest : List R}
    {qs : List Q} {b : β} (h : (d.bind f).replay rs = (qs, rest, some b)) :
    ∃ first second left a, d.replay rs = (first, left, some a) ∧
      (f a).replay left = (second, rest, some b) ∧ qs = first ++ second := by
  induction d generalizing rs qs with
  | done a => exact ⟨[], qs, rs, a, rfl, h, rfl⟩
  | ask q next ih =>
    cases rs with
    | nil => cases h
    | cons r rs =>
      rcases hnext : ((next r).bind f).replay rs with ⟨qs', rest', value⟩
      simp only [bind, replay, hnext] at h
      cases h
      obtain ⟨first, second, left, a, hfirst, hsecond, rfl⟩ := ih r hnext
      exact ⟨q :: first, second, left, a, by rw [replay, hfirst], hsecond, rfl⟩
  | unfinished => cases h

/-! ### One turn at a time -/

/-- A dialogue that is being held: what is left, and whether its next question is out. -/
structure Running (Q R α : Type) where
  rest : Dialogue Q R α
  waiting : Bool := false

namespace Running

/-- Put the next question, if there is one and it is not out yet. -/
def send? (d : Running Q R α) : Option (Q × Running Q R α) :=
  match d.rest, d.waiting with
  | .ask q _, false => some (q, { d with waiting := true })
  | _, _ => none

/-- Take in the answer to the question that is out. -/
def answer? (d : Running Q R α) (r : R) : Option (Running Q R α) :=
  match d.rest, d.waiting with
  | .ask _ next, true => some { rest := next r }
  | _, _ => none

/-- The value, once there is nothing left to ask. -/
def value? (d : Running Q R α) : Option α :=
  match d.rest with
  | .done a => some a
  | _ => none

theorem send?_eq_some {d d' : Running Q R α} {q : Q} (h : d.send? = some (q, d')) :
    ∃ next, d = ⟨.ask q next, false⟩ ∧ d' = ⟨.ask q next, true⟩ := by
  obtain ⟨rest, waiting⟩ := d
  cases rest with
  | ask q' next =>
    cases waiting with
    | false => cases h; exact ⟨next, rfl, rfl⟩
    | true => cases h
  | done a => cases h
  | unfinished => cases h

theorem answer?_eq_some {d d' : Running Q R α} {r : R} (h : d.answer? r = some d') :
    ∃ q next, d = ⟨.ask q next, true⟩ ∧ d' = ⟨next r, false⟩ := by
  obtain ⟨rest, waiting⟩ := d
  cases rest with
  | ask q next =>
    cases waiting with
    | false => cases h
    | true => cases h; exact ⟨q, next, rfl, rfl⟩
  | done a => cases h
  | unfinished => cases h

theorem value?_eq_some {d : Running Q R α} {a : α} (h : d.value? = some a) : d.rest = .done a := by
  obtain ⟨rest, waiting⟩ := d
  cases rest with
  | done b => cases h; rfl
  | ask q next => cases h
  | unfinished => cases h

/-- How far a dialogue has come: what is left of it, its questions and the answers so far. -/
inductive History (whole : Dialogue Q R α) : Running Q R α → List Q → List R → Prop where
  | start : History whole ⟨whole, false⟩ [] []
  | send {d d' : Running Q R α} {qs : List Q} {rs : List R} {q : Q} (h : History whole d qs rs)
      (hsend : d.send? = some (q, d')) : History whole d' (qs ++ [q]) rs
  | answer {d d' : Running Q R α} {qs : List Q} {rs : List R} {r : R} (h : History whole d qs rs)
      (hanswer : d.answer? r = some d') : History whole d' qs (rs ++ [r])

variable {whole : Dialogue Q R α} {d : Running Q R α} {qs : List Q} {rs : List R}

theorem History.asks {P : Q → Prop} (h : History whole d qs rs) (hwhole : whole.Asks P) :
    d.rest.Asks P ∧ ∀ q ∈ qs, P q := by
  induction h with
  | start => exact ⟨hwhole, fun q hq => nomatch hq⟩
  | send _ hsend ih =>
    obtain ⟨next, rfl, rfl⟩ := send?_eq_some hsend
    obtain ⟨hrest, hqs⟩ := ih
    refine ⟨hrest, fun q hq => ?_⟩
    rcases List.mem_append.1 hq with hold | hnew
    · exact hqs q hold
    · obtain rfl := List.mem_singleton.1 hnew
      cases hrest with
      | ask hquestion _ => exact hquestion
  | answer _ hanswer ih =>
    obtain ⟨q, next, rfl, rfl⟩ := answer?_eq_some hanswer
    obtain ⟨hrest, hqs⟩ := ih
    cases hrest with
    | ask _ hnext => exact ⟨hnext _, hqs⟩

/-- The question that is out. -/
def asked (d : Running Q R α) : List Q :=
  match d.waiting, d.rest with
  | true, .ask q _ => [q]
  | _, _ => []

@[simp] theorem asked_of_idle (rest : Dialogue Q R α) :
    (⟨rest, false⟩ : Running Q R α).asked = [] := rfl

/-- What was asked and answered is a replay as far as it has come. -/
theorem History.replay_append (h : History whole d qs rs) :
    ∃ before, qs = before ++ d.asked ∧ ∀ more, whole.replay (rs ++ more) =
      (before ++ (d.rest.replay more).1, (d.rest.replay more).2) := by
  induction h with
  | start => exact ⟨[], rfl, fun more => rfl⟩
  | send _ hsend ih =>
    obtain ⟨next, rfl, rfl⟩ := send?_eq_some hsend
    obtain ⟨before, rfl, hreplay⟩ := ih
    refine ⟨before, ?_, hreplay⟩
    rw [asked_of_idle, List.append_nil]
    rfl
  | @answer _ _ _ _ r _ hanswer ih =>
    obtain ⟨q, next, rfl, rfl⟩ := answer?_eq_some hanswer
    obtain ⟨before, rfl, hreplay⟩ := ih
    refine ⟨before ++ [q], ?_, fun more => ?_⟩
    · rw [asked_of_idle, List.append_nil]
      rfl
    · rw [List.append_assoc, hreplay]
      simp only [Dialogue.replay, List.singleton_append, List.append_assoc]

/-- A dialogue that is over was a replay of its answers. -/
theorem History.replay_of_value {a : α} (h : History whole d qs rs)
    (hvalue : d.value? = some a) : whole.replay rs = (qs, [], some a) := by
  obtain ⟨before, rfl, hreplay⟩ := h.replay_append
  obtain ⟨rest, waiting⟩ := d
  obtain rfl : rest = .done a := value?_eq_some hvalue
  have hend := hreplay []
  simp only [List.append_nil, Dialogue.replay] at hend
  cases waiting with
  | false => simpa using hend
  | true => simpa [asked] using hend

/-- A value that is reached is the value of the whole dialogue. -/
theorem History.value {a : α} (h : History whole d qs rs) (hvalue : d.value? = some a) :
    (whole.replay rs).2.2 = some a := by
  rw [h.replay_of_value hvalue]

theorem History.of_done {a : α} (h : History (.done a) d qs rs) :
    d = ⟨.done a, false⟩ ∧ qs = [] ∧ rs = [] := by
  induction h with
  | start => exact ⟨rfl, rfl, rfl⟩
  | send _ hsend ih =>
    obtain ⟨rfl, _⟩ := ih
    cases hsend
  | answer _ hanswer ih =>
    obtain ⟨rfl, _⟩ := ih
    cases hanswer

/-- A dialogue of one exchange has not begun, or waits for the answer, or is done with what the
answer comes to. -/
theorem History.of_exchange {q : Q} {result : R → α}
    (h : History (.ask q fun r => .done (result r)) d qs rs) :
    (d = ⟨.ask q fun r => .done (result r), false⟩ ∧ qs = [] ∧ rs = []) ∨
      (d = ⟨.ask q fun r => .done (result r), true⟩ ∧ qs = [q] ∧ rs = []) ∨
      ∃ r, d = ⟨.done (result r), false⟩ ∧ qs = [q] ∧ rs = [r] := by
  induction h with
  | start => exact .inl ⟨rfl, rfl, rfl⟩
  | send _ hsend ih =>
    rcases ih with ⟨rfl, rfl, rfl⟩ | ⟨rfl, _⟩ | ⟨r, rfl, _⟩
    · cases hsend
      exact .inr (.inl ⟨rfl, rfl, rfl⟩)
    · cases hsend
    · cases hsend
  | answer _ hanswer ih =>
    rcases ih with ⟨rfl, _⟩ | ⟨rfl, rfl, rfl⟩ | ⟨r, rfl, _⟩
    · cases hanswer
    · cases hanswer
      exact .inr (.inr ⟨_, rfl, rfl, rfl⟩)
    · cases hanswer

end Running

end Dialogue

/-! ### Operations -/

namespace Operation

variable {α β : Type} {P : Http.Request → Prop}

/-- Each request of an operation satisfies `P`, whatever the responses. -/
def Sends (P : Http.Request → Prop) (op : Operation α) : Prop := Dialogue.Asks P op.run

theorem sends_lift (e : Except Fault α) : Sends P (Operation.lift e) := .done e

theorem sends_throw (f : Fault) : Sends P (throw f : Operation α) :=
  sends_lift (.error f)

theorem sends_pure (a : α) : Sends P (pure a : Operation α) := sends_lift (.ok a)

theorem sends_send {r : Http.Request} (h : P r) : Sends P (Operation.send r) :=
  .ask h fun answer => .done answer

theorem Sends.bind {op : Operation α} {f : α → Operation β} (hop : Sends P op)
    (hf : ∀ a, Sends P (f a)) : Sends P (op >>= f) := by
  refine Dialogue.Asks.bind hop fun e => ?_
  cases e with
  | ok a => exact hf a
  | error f => exact sends_lift (.error f)

theorem Sends.map {op : Operation α} (f : α → β) (hop : Sends P op) : Sends P (f <$> op) :=
  Sends.bind hop fun a => sends_pure (f a)

end Operation

namespace Client

variable {α : Type} {P : Http.Request → Prop} {c : Client} {d : Descriptor}

open Operation

theorem sends_dispatch (h : P (c.sender.build c.now d)) : Sends P (c.dispatch d) :=
  (sends_send h).bind fun _ => sends_lift _

theorem sends_dispatchAndDrain (h : P (c.sender.build c.now d)) :
    Sends P (c.dispatchAndDrain d) := by
  refine (sends_dispatch h).bind fun r => ?_
  rcases r.body.collect with f | _
  · exact sends_throw _
  · exact sends_pure r

theorem sends_fetch (h : P (c.sender.build c.now d)) (shape : Shape)
    (read : Bytes → Except Xml.Fault α) : Sends P (c.fetch d shape read) :=
  (sends_dispatch h).bind fun _ => sends_lift _

end Client

end ObjectStore
