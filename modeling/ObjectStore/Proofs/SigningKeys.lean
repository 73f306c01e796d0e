import ObjectStore.Proofs.Lists
import ObjectStore.Signature
/-!
# Keys that are kept for a day

Calls may be under way on one signer and on its clones, in any number.  A call enters, looks its
key up and returns, and these are single steps: between any two of them steps of other calls may
stand, and clones may be made.  Looking a key up is the only step in which a call meets others,
for it reads and replaces the key that its signer has kept (`CachingSigner.lookUp`).

A kept key is the key of the day that it is kept under, whoever has left it there.  `Pool.Coherent`
says this of all signers, and of the keys that calls hold; each step keeps it.  Hence **a kept key
never shows** (`Pool.unobservable_of_interleaving`): what a call returns is what a signer returns
that was made for this call alone.
-/

namespace ObjectStore

/-- What a call has signed, and when. -/
structure SigningOrder where
  method : String
  url : String
  headers : Table String
  digest : PayloadDigest
  now : Moment

namespace CachingSigner

/-- The key of a day, and the signer that keeps it from now on. -/
def lookUp (s : CachingSigner) (day : String) : Bytes × CachingSigner :=
  (s.dayKey day, { s with cache := some (day, s.dayKey day) })

/-- The headers of a signed request, and the signer afterwards. -/
def fulfil (s : CachingSigner) (o : SigningOrder) : Table String × CachingSigner :=
  s.sign o.method o.url o.headers o.digest o.now

/-- The headers of a request that is signed with a key which was looked up before. -/
def fulfilWith (s : CachingSigner) (key : Bytes) (o : SigningOrder) : Table String :=
  s.signer.signWith key o.method o.url o.headers o.digest o.now

/-- Signing is looking the key up and using it. -/
theorem fulfil_eq (s : CachingSigner) (o : SigningOrder) :
    s.fulfil o = (s.fulfilWith (s.lookUp o.now.dayStamp).1 o, (s.lookUp o.now.dayStamp).2) := rfl

/-- The key that the signer has kept is that of its day. -/
def Coherent (signer : Signer) (s : CachingSigner) : Prop :=
  s.signer = signer ∧ ∀ day key, s.cache = some (day, key) → key = signer.dayKey day

variable {signer : Signer} {s : CachingSigner}

theorem coherent_new (signer : Signer) : Coherent signer { signer } := by
  constructor
  · rfl
  · intro day key h
    cases h

theorem Coherent.clone (h : s.Coherent signer) : s.clone.Coherent signer := by
  obtain ⟨rfl, -⟩ := h
  exact coherent_new s.signer

theorem Coherent.dayKey_eq (h : s.Coherent signer) (day : String) :
    s.dayKey day = signer.dayKey day := by
  obtain ⟨rfl, hcache⟩ := h
  unfold dayKey
  split
  · next cached key hkept =>
    split
    · next hday =>
      rw [← hday]
      exact hcache cached key hkept
    · rfl
  · rfl

theorem Coherent.lookUp (h : s.Coherent signer) (day : String) :
    (s.lookUp day).1 = signer.dayKey day ∧ (s.lookUp day).2.Coherent signer := by
  refine ⟨h.dayKey_eq day, h.1, ?_⟩
  intro day' key hkept
  cases hkept
  exact h.dayKey_eq day

/-- With the key of its day a signer signs like one that has kept nothing. -/
theorem Coherent.fulfilWith_eq (h : s.Coherent signer) (o : SigningOrder) :
    s.fulfilWith (signer.dayKey o.now.dayStamp) o = (fulfil { signer } o).1 := by
  obtain ⟨rfl, -⟩ := h
  rfl

/-! ### Calls under way -/

/-- A call between entering and returning, with its key if it has looked that up. -/
structure CallUnderWay where
  /-- The place of its signer. -/
  place : Nat
  order : SigningOrder
  key : Option Bytes := none

/-- A signer with its clones, the calls that are under way and what calls have returned. -/
structure Pool where
  signers : List CachingSigner
  calls : List CallUnderWay := []
  returned : List (SigningOrder × Table String) := []

/-- What happens next: signers and calls are given by their places in the lists. -/
inductive Event where
  | clone (i : Nat)
  | enter (i : Nat) (order : SigningOrder)
  | lookUp (j : Nat)
  | leave (j : Nat)

namespace Pool

/-- One signer that has signed nothing, and no calls. -/
def ofSigner (signer : Signer) : Pool := { signers := [{ signer }] }

/-- One step, if the event can happen. -/
def step (p : Pool) : Event → Option Pool
  | .clone i => do
    let s ← p.signers[i]?
    return { p with signers := p.signers ++ [s.clone] }
  | .enter i order => do
    let _ ← p.signers[i]?
    return { p with calls := p.calls ++ [{ place := i, order }] }
  | .lookUp j => do
    let f ← p.calls[j]?
    let s ← p.signers[f.place]?
    match f.key with
    | some _ => none
    | none =>
      let (key, s) := s.lookUp f.order.now.dayStamp
      some { p with signers := p.signers.set f.place s,
                    calls := p.calls.set j { f with key := some key } }
  | .leave j => do
    let f ← p.calls[j]?
    let s ← p.signers[f.place]?
    let key ← f.key
    return { p with calls := p.calls.eraseIdx j,
                    returned := p.returned ++ [(f.order, s.fulfilWith key f.order)] }

/-- Some steps in turn, if each of the events can happen. -/
def run (p : Pool) : List Event → Option Pool
  | [] => some p
  | event :: events => do
    let p' ← p.step event
    p'.run events

/-! ### What one step does -/

variable {p p' : Pool}

theorem step_clone {i : Nat} (h : p.step (.clone i) = some p') :
    ∃ s ∈ p.signers, p' = { p with signers := p.signers ++ [s.clone] } := by
  simp only [step, Option.bind_eq_bind, Option.bind_eq_some_iff] at h
  obtain ⟨s, hs, h⟩ := h
  cases h
  exact ⟨s, List.mem_of_getElem? hs, rfl⟩

theorem step_enter {i : Nat} {order : SigningOrder} (h : p.step (.enter i order) = some p') :
    i < p.signers.length ∧ p' = { p with calls := p.calls ++ [{ place := i, order }] } := by
  simp only [step, Option.bind_eq_bind, Option.bind_eq_some_iff] at h
  obtain ⟨s, hs, h⟩ := h
  cases h
  exact ⟨(List.getElem?_eq_some_iff.1 hs).1, rfl⟩

theorem step_lookUp {j : Nat} (h : p.step (.lookUp j) = some p') :
    ∃ f ∈ p.calls, ∃ s ∈ p.signers, f.key = none ∧
      p' = { p with
        signers := p.signers.set f.place (s.lookUp f.order.now.dayStamp).2,
        calls := p.calls.set j { f with key := some (s.lookUp f.order.now.dayStamp).1 } } := by
  simp only [step, Option.bind_eq_bind, Option.bind_eq_some_iff] at h
  obtain ⟨f, hf, s, hs, h⟩ := h
  split at h
  · cases h
  · next hkey =>
    cases h
    exact ⟨f, List.mem_of_getElem? hf, s, List.mem_of_getElem? hs, hkey, rfl⟩

theorem step_leave {j : Nat} (h : p.step (.leave j) = some p') :
    ∃ f ∈ p.calls, ∃ s ∈ p.signers, ∃ key, f.key = some key ∧
      p' = { p with
        calls := p.calls.eraseIdx j,
        returned := p.returned ++ [(f.order, s.fulfilWith key f.order)] } := by
  simp only [step, Option.bind_eq_bind, Option.bind_eq_some_iff] at h
  obtain ⟨f, hf, s, hs, key, hkey, h⟩ := h
  cases h
  exact ⟨f, List.mem_of_getElem? hf, s, List.mem_of_getElem? hs, key, hkey, rfl⟩

/-- A call that nothing comes between is the signer's `sign`. -/
theorem run_uninterrupted {i : Nat} {s : CachingSigner} (h : p.signers[i]? = some s)
    (o : SigningOrder) :
    p.run [.enter i o, .lookUp p.calls.length, .leave p.calls.length] =
      some { p with signers := p.signers.set i (s.fulfil o).2,
                    returned := p.returned ++ [(o, (s.fulfil o).1)] } := by
  obtain ⟨hi, rfl⟩ := List.getElem?_eq_some_iff.1 h
  simp [run, step, fulfil_eq, hi, fulfilWith, lookUp, List.eraseIdx_append_of_length_le]

/-! ### The invariant -/

/-- Every key that a signer has kept or a call holds is the one that the signer derives for that
day. -/
structure Coherent (signer : Signer) (p : Pool) : Prop where
  signers : ∀ s ∈ p.signers, s.Coherent signer
  places : ∀ f ∈ p.calls, f.place < p.signers.length
  keys : ∀ f ∈ p.calls, ∀ key, f.key = some key → key = signer.dayKey f.order.now.dayStamp
  returned : ∀ r ∈ p.returned, r.2 = (fulfil { signer } r.1).1

theorem coherent_ofSigner (signer : Signer) : (ofSigner signer).Coherent signer := by
  refine ⟨?_, ?_, ?_, ?_⟩
  · intro s hs
    obtain rfl := List.mem_singleton.1 hs
    exact coherent_new signer
  · intro f hf
    cases hf
  · intro f hf
    cases hf
  · intro r hr
    cases hr

theorem Coherent.clone {i : Nat} (h : p.Coherent signer) (hstep : p.step (.clone i) = some p') :
    p'.Coherent signer := by
  obtain ⟨s, hs, rfl⟩ := step_clone hstep
  refine ⟨?_, ?_, h.keys, h.returned⟩
  · intro t ht
    rcases List.mem_append.1 ht with hold | hnew
    · exact h.signers t hold
    · obtain rfl := List.mem_singleton.1 hnew
      exact (h.signers s hs).clone
  · intro f hf
    rw [List.length_append]
    exact Nat.lt_add_right _ (h.places f hf)

theorem Coherent.enter {i : Nat} {order : SigningOrder} (h : p.Coherent signer)
    (hstep : p.step (.enter i order) = some p') : p'.Coherent signer := by
  obtain ⟨hi, rfl⟩ := step_enter hstep
  refine ⟨h.signers, ?_, ?_, h.returned⟩
  · intro f hf
    rcases List.mem_append.1 hf with hold | hnew
    · exact h.places f hold
    · obtain rfl := List.mem_singleton.1 hnew
      exact hi
  · intro f hf key hkey
    rcases List.mem_append.1 hf with hold | hnew
    · exact h.keys f hold key hkey
    · obtain rfl := List.mem_singleton.1 hnew
      cases hkey

theorem Coherent.lookUp {j : Nat} (h : p.Coherent signer)
    (hstep : p.step (.lookUp j) = some p') : p'.Coherent signer := by
  obtain ⟨f, hf, s, hs, -, rfl⟩ := step_lookUp hstep
  obtain ⟨hkey, hcoherent⟩ := (h.signers s hs).lookUp f.order.now.dayStamp
  refine ⟨?_, ?_, ?_, h.returned⟩
  · intro t ht
    rcases List.mem_or_eq_of_mem_set ht with hold | rfl
    · exact h.signers t hold
    · exact hcoherent
  · intro g hg
    rw [List.length_set]
    rcases List.mem_or_eq_of_mem_set hg with hold | rfl
    · exact h.places g hold
    · exact h.places f hf
  · intro g hg key hheld
    rcases List.mem_or_eq_of_mem_set hg with hold | rfl
    · exact h.keys g hold key hheld
    · cases hheld
      exact hkey

theorem Coherent.leave {j : Nat} (h : p.Coherent signer) (hstep : p.step (.leave j) = some p') :
    p'.Coherent signer := by
  obtain ⟨f, hf, s, hs, key, hheld, rfl⟩ := step_leave hstep
  refine ⟨h.signers, ?_, ?_, ?_⟩
  · intro g hg
    exact h.places g (List.mem_of_mem_eraseIdx hg)
  · intro g hg
    exact h.keys g (List.mem_of_mem_eraseIdx hg)
  · intro r hr
    rcases List.mem_append.1 hr with hold | hnew
    · exact h.returned r hold
    · obtain rfl := List.mem_singleton.1 hnew
      rw [h.keys f hf key hheld]
      exact (h.signers s hs).fulfilWith_eq f.order

theorem Coherent.step {event : Event} (h : p.Coherent signer) (hstep : p.step event = some p') :
    p'.Coherent signer := by
  cases event with
  | clone => exact h.clone hstep
  | enter => exact h.enter hstep
  | lookUp => exact h.lookUp hstep
  | leave => exact h.leave hstep

/-- **Each run keeps the invariant.** -/
theorem Coherent.run {events : List Event} (h : p.Coherent signer)
    (hrun : p.run events = some p') : p'.Coherent signer := by
  induction events generalizing p with
  | nil =>
    cases hrun
    exact h
  | cons event events ih =>
    rw [Pool.run, Option.bind_eq_bind, Option.bind_eq_some_iff] at hrun
    obtain ⟨next, hstep, hrest⟩ := hrun
    exact ih (h.step hstep) hrest

/-! ### What callers see -/

/-- A call under way can always take its next step. -/
theorem Coherent.exists_step (h : p.Coherent signer) {j : Nat} (hj : j < p.calls.length) :
    (∃ p', p.step (.lookUp j) = some p') ∨ ∃ p', p.step (.leave j) = some p' := by
  have hcall : p.calls[j]? = some p.calls[j] := List.getElem?_eq_getElem hj
  have hsigner := List.getElem?_eq_getElem (h.places p.calls[j] (List.getElem_mem hj))
  cases hkey : p.calls[j].key with
  | none =>
    left
    simp [Pool.step, hcall, hsigner, hkey]
  | some key =>
    right
    simp [Pool.step, hcall, hsigner, hkey]

/-- What callers see of a pool. -/
structure Unobservable (signer : Signer) (p : Pool) : Prop where
  /-- What a call returned is what a new signer returns for it, -/
  returned : ∀ r ∈ p.returned, r.2 = (fulfil { signer } r.1).1
  /-- and a call that has not returned can go on. -/
  goesOn : ∀ j < p.calls.length,
    (∃ p', p.step (.lookUp j) = some p') ∨ ∃ p', p.step (.leave j) = some p'

/-- **A kept key never shows:** whatever calls a new signer and its clones are given, on whatever
days, and in whatever order they look their keys up. -/
theorem unobservable_of_interleaving {signer : Signer} {events : List Event} {p : Pool}
    (hrun : (ofSigner signer).run events = some p) : p.Unobservable signer := by
  have hcoherent := (coherent_ofSigner signer).run hrun
  constructor
  · exact hcoherent.returned
  · intro j hj
    exact hcoherent.exists_step hj

/-- Two calls on a signer, one in the last second of a day and one in the first of the next, and
between them a call on its clone, which looks its key up after both. -/
def aroundMidnight : List Event :=
  [.enter 0 ⟨"GET", "https://s3.amazonaws.com/", .empty, .empty, .ofSeconds 1709683199⟩,
    .lookUp 0, .clone 0,
    .enter 1 ⟨"PUT", "https://s3.amazonaws.com/b/k", .empty, .unsigned, .ofSeconds 1709683199⟩,
    .enter 0 ⟨"GET", "https://s3.amazonaws.com/", .empty, .empty, .ofSeconds 1709683200⟩,
    .lookUp 2, .lookUp 1, .leave 1, .leave 0, .leave 0]

/-- The signer has replaced its key, and the clone has one of its own. -/
theorem unobservable_of_aroundMidnight :
    ∃ p, (ofSigner { accessKey := "AKID", secretKey := "secret" }).run aroundMidnight = some p ∧
      p.signers.map (fun s => s.cache.map Prod.fst) = [some "20240306", some "20240305"] ∧
      p.returned.length = 3 ∧ p.Unobservable { accessKey := "AKID", secretKey := "secret" } := by
  obtain ⟨p, hrun, hp⟩ := Option.map_eq_some_iff.1 <| show
    ((ofSigner { accessKey := "AKID", secretKey := "secret" }).run aroundMidnight).map
        (fun p => (p.signers.map (fun s => s.cache.map Prod.fst), p.returned.length)) =
      some ([some "20240306", some "20240305"], 3) from by decide +kernel
  obtain ⟨hsigners, hreturned⟩ := Prod.mk.inj hp
  exact ⟨p, hrun, hsigners, hreturned, unobservable_of_interleaving hrun⟩

end Pool

end CachingSigner

end ObjectStore
