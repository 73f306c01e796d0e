import ObjectStore.Xml.Fault
/-!
# References in character data

`escape` writes the five characters with a meaning of their own as references to the
predefined entities.  `unescape` replaces references by what they stand for and reports the
first one that it cannot replace, with its place in bytes.  **Round trip:**
`unescape_escape` says that escaped text reads back as itself.
-/

namespace ObjectStore.Xml

def escapeChar : Char → List Char
  | '&' => ['&', 'a', 'm', 'p', ';']
  | '<' => ['&', 'l', 't', ';']
  | '>' => ['&', 'g', 't', ';']
  | '"' => ['&', 'q', 'u', 'o', 't', ';']
  | '\'' => ['&', 'a', 'p', 'o', 's', ';']
  | c => [c]

def escape (s : String) : String := String.ofList (s.toList.flatMap escapeChar)

/-! ### Reading references -/

/-- The character code that follows the number sign of a reference. -/
def readCode (base : Nat) (cs : List Char) : Except ReferenceFault Nat :=
  match cs with
  | '+' :: _ => .error .sign
  | '-' :: _ => .error .sign
  | _ => (Text.readDigits base UInt32.size cs).mapError .number

/-- The character that a numeric reference denotes; `x` announces hexadecimal digits. -/
def readReference (digits : List Char) : Except ReferenceFault Char := do
  let code ←
    match digits with
    | 'x' :: hex => readCode 16 hex
    | _ => readCode 10 digits
  if code = 0 then .error .zero
  else if code.isValidChar then .ok (Char.ofNat code)
  else .error (.notScalar code)

def entity? : List Char → Option Char
  | ['l', 't'] => some '<'
  | ['g', 't'] => some '>'
  | ['a', 'm', 'p'] => some '&'
  | ['a', 'p', 'o', 's'] => some '\''
  | ['q', 'u', 'o', 't'] => some '"'
  | _ => none

def byteLength (cs : List Char) : Nat := cs.foldr (fun c n => c.utf8Size + n) 0

/-- The character named between `&` and `;`, where the name begins at byte `first`. -/
def resolve (first : Nat) (name : List Char) : Except Fault Char :=
  match name with
  | '#' :: digits => (readReference digits).mapError .badReference
  | _ =>
    match entity? name with
    | some c => .ok c
    | none => .error (.unknownEntity first (first + byteLength name) (String.ofList name))

def endsName (c : Char) : Bool := c = ';' || c = '&'

/-- Replace the references of a text of `total` bytes, from the given position on. -/
def unescapeFrom (total position : Nat) : List Char → Except Fault (List Char)
  | [] => .ok []
  | c :: r =>
    if c = '&' then
      let name := r.takeWhile (!endsName ·)
      match h : r.dropWhile (!endsName ·) with
      | ';' :: rest => do
        let value ← resolve (position + 1) name
        let tail ← unescapeFrom total (position + byteLength name + 2) rest
        return value :: tail
      | _ => .error (.openReference position total)
    else do
      let tail ← unescapeFrom total (position + c.utf8Size) r
      return c :: tail
  termination_by cs => cs.length
  decreasing_by
    · have := (List.dropWhile_suffix (l := r) (!endsName ·)).length_le
      rw [h] at this
      simp at this ⊢
      omega
    · simp

/-- The text that a run of character data stands for. -/
def unescape (cs : List Char) : Except Fault (List Char) := unescapeFrom (byteLength cs) 0 cs

/-! ### Round trip -/

theorem unescapeFrom_cons {c : Char} (h : c ≠ '&') (total position : Nat) (r : List Char) :
    unescapeFrom total position (c :: r) =
      (unescapeFrom total (position + c.utf8Size) r).map (c :: ·) := by
  rw [unescapeFrom, if_neg h]
  cases unescapeFrom total (position + c.utf8Size) r <;> rfl

theorem unescapeFrom_reference {name : List Char} {c : Char}
    (hn : ∀ x ∈ name, endsName x = false) (total position : Nat)
    (hc : resolve (position + 1) name = .ok c) (r : List Char) :
    unescapeFrom total position ('&' :: (name ++ ';' :: r)) =
      (unescapeFrom total (position + byteLength name + 2) r).map (c :: ·) := by
  have ht : (name ++ ';' :: r).takeWhile (!endsName ·) = name := by
    rw [List.takeWhile_append_of_pos (by simpa using hn)]
    simp [endsName]
  have hd : (name ++ ';' :: r).dropWhile (!endsName ·) = ';' :: r := by
    rw [List.dropWhile_append_of_pos (by simpa using hn)]
    simp [endsName]
  rw [unescapeFrom, if_pos rfl]
  split
  · next rest h =>
    rw [hd] at h
    obtain ⟨_, rfl⟩ := List.cons.inj h
    rw [ht]
    simp only [hc]
    cases unescapeFrom total (position + byteLength name + 2) r <;> rfl
  · next h => exact absurd hd (h r)

/-- Escaped text reads back as itself, wherever it stands and whatever follows it. -/
theorem unescapeFrom_escape (cs r : List Char) (total position : Nat) :
    ∃ next, unescapeFrom total position (cs.flatMap escapeChar ++ r) =
      (unescapeFrom total next r).map (cs ++ ·) := by
  induction cs generalizing position with
  | nil =>
    refine ⟨position, ?_⟩
    rw [List.flatMap_nil, List.nil_append]
    cases unescapeFrom total position r <;> rfl
  | cons c cs ih =>
    have before : ∀ {tail rest : Except Fault (List Char)}, tail = rest.map (cs ++ ·) →
        tail.map (c :: ·) = rest.map (c :: cs ++ ·) := by
      rintro _ rest rfl
      cases rest <;> rfl
    have entity : ∀ name : List Char, (∀ x ∈ name, endsName x = false) →
        resolve (position + 1) name = .ok c → ∃ next,
        unescapeFrom total position (('&' :: (name ++ [';'])) ++ (cs.flatMap escapeChar ++ r)) =
          (unescapeFrom total next r).map (c :: cs ++ ·) := by
      intro name hn hc
      have hread := unescapeFrom_reference hn total position hc (cs.flatMap escapeChar ++ r)
      obtain ⟨next, hnext⟩ := ih (position + byteLength name + 2)
      refine ⟨next, ?_⟩
      rw [List.cons_append, List.append_assoc, List.singleton_append, hread]
      exact before hnext
    rw [List.flatMap_cons, List.append_assoc]
    by_cases h₁ : c = '&'
    · subst h₁; exact entity ['a', 'm', 'p'] (by simp [endsName]) rfl
    by_cases h₂ : c = '<'
    · subst h₂; exact entity ['l', 't'] (by simp [endsName]) rfl
    by_cases h₃ : c = '>'
    · subst h₃; exact entity ['g', 't'] (by simp [endsName]) rfl
    by_cases h₄ : c = '"'
    · subst h₄; exact entity ['q', 'u', 'o', 't'] (by simp [endsName]) rfl
    by_cases h₅ : c = '\''
    · subst h₅; exact entity ['a', 'p', 'o', 's'] (by simp [endsName]) rfl
    obtain ⟨next, hnext⟩ := ih (position + c.utf8Size)
    refine ⟨next, ?_⟩
    rw [escapeChar.eq_6 c h₁ h₂ h₃ h₄ h₅, List.singleton_append, unescapeFrom_cons h₁]
    exact before hnext

/-- **Round trip.** Escaped text reads back as itself. -/
theorem unescape_escape (cs : List Char) : unescape (cs.flatMap escapeChar) = .ok cs := by
  obtain ⟨next, hnext⟩ := unescapeFrom_escape cs [] (byteLength (cs.flatMap escapeChar)) 0
  rw [List.append_nil, unescapeFrom] at hnext
  rw [unescape, hnext]
  simp [Except.map]

end ObjectStore.Xml
