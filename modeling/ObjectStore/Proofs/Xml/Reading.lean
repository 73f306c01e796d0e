import ObjectStore.Proofs.Xml.Layout
/-!
# What one token does

`Reads r t r' nodes` lists what the reader can do at a token, one case for each kind of token, and
`Reading.step_eq_ok_iff` says that it does nothing else.  What holds of every state that is reached
is shown from these cases.
-/

namespace ObjectStore.Xml

namespace Token

/-- The name of the element that begins with the token. -/
def begun? : Token → Option Bytes
  | .start name => some name
  | .empty name => some name
  | _ => none

end Token

/-! ### The name of the first element -/

/-- `Named root ts root'`: behind the tokens the first element is `root'`, if in front of them it
is `root`. -/
inductive Named : Option String → List Token → Option String → Prop
  | known (name : String) (ts : List Token) : Named (some name) ts (some name)
  | bare {ts : List Token} (h : ts.findSome? Token.begun? = none) : Named none ts none
  | first {ts : List Token} {raw : Bytes} {name : String}
      (h : ts.findSome? Token.begun? = some raw)
      (hname : Text.Utf8.decode (localPart raw) = .ok name) : Named none ts (some name)

theorem named_nil (root : Option String) : Named root [] root := by
  cases root with
  | none => exact .bare rfl
  | some name => exact .known name []

theorem named_append {root root' : Option String} {ts us : List Token} :
    Named root (ts ++ us) root' ↔ ∃ mid, Named root ts mid ∧ Named mid us root' := by
  constructor
  · intro h
    cases h with
    | known name => exact ⟨some name, .known name ts, .known name us⟩
    | bare h =>
      rw [List.findSome?_append, Option.or_eq_none_iff] at h
      exact ⟨none, .bare h.1, .bare h.2⟩
    | first h hname =>
      rw [List.findSome?_append] at h
      rcases hts : ts.findSome? Token.begun? with _ | raw'
      · rw [hts, Option.none_or] at h
        exact ⟨none, .bare hts, .first h hname⟩
      · rw [hts, Option.some_or] at h
        cases h
        exact ⟨_, .first hts hname, .known _ us⟩
  · rintro ⟨mid, hts, hus⟩
    cases hts with
    | known name =>
      cases hus
      exact .known name (ts ++ us)
    | bare hts =>
      cases hus with
      | bare hus => exact .bare (by rw [List.findSome?_append, hts, hus]; rfl)
      | first hus hname =>
        exact .first (by rw [List.findSome?_append, hts, hus]; rfl) hname
    | first hts hname =>
      cases hus
      exact .first (by rw [List.findSome?_append, hts]; rfl) hname

theorem named_singleton_iff_of_begun?_eq_none {t : Token} (ht : t.begun? = none)
    {root root' : Option String} : Named root [t] root' ↔ root' = root := by
  have hnone : [t].findSome? Token.begun? = none := by
    rw [List.findSome?_cons, ht]
    rfl
  constructor
  · intro h
    cases h with
    | known => rfl
    | bare => rfl
    | first h =>
      rw [hnone] at h
      cases h
  · rintro rfl
    cases root' with
    | none => exact .bare hnone
    | some name => exact .known name [t]

theorem Reading.withRoot_eq_ok_iff {t : Token} {name : Bytes} (ht : t.begun? = some name)
    {r r' : Reading} : r.withRoot name = .ok r' ↔
      ∃ root, Named r.root [t] root ∧ r' = { r with root := root } := by
  have hfirst : [t].findSome? Token.begun? = some name := by
    rw [List.findSome?_cons, ht]
  obtain ⟨opened, text, root⟩ := r
  cases root with
  | some root =>
    constructor
    · intro h
      cases h
      exact ⟨some root, .known root [t], rfl⟩
    · rintro ⟨_, ⟨_⟩, rfl⟩
      rfl
  | none =>
    rw [Reading.withRoot]
    dsimp only
    constructor
    · intro h
      split at h
      · next root hname =>
        cases h
        exact ⟨some root, .first hfirst hname, rfl⟩
      · cases h
    · rintro ⟨_, h, rfl⟩
      cases h with
      | bare h =>
        rw [hfirst] at h
        cases h
      | first h hname =>
        rw [hfirst] at h
        cases h
        rw [hname]

/-! ### One token -/

/-- What the reader makes of a token: its next state and the nodes. -/
inductive Reads : Reading → Token → Reading → List Node → Prop
  | start {opened : List Bytes} {text : String} {root root' : Option String} (name : Bytes)
      (hname : Named root [.start name] root') :
      Reads ⟨opened, text, root⟩ (.start name) ⟨name :: opened, "", root'⟩
        [.opened (nameText (localPart name))]
  | empty {opened : List Bytes} {text : String} {root root' : Option String} (name : Bytes)
      (hname : Named root [.empty name] root') :
      Reads ⟨opened, text, root⟩ (.empty name) ⟨opened, "", root'⟩
        [.opened (nameText (localPart name)), .closed (nameText (localPart name)) ""]
  | text {opened : List Bytes} {text more : String} {root : Option String} {run : Bytes}
      (hread : Reading.runText run = .ok more) :
      Reads ⟨opened, text, root⟩ (.text run) ⟨opened, text ++ more, root⟩ []
  | cdata {opened : List Bytes} {text more : String} {root : Option String} {content : Bytes}
      (hread : Text.Utf8.decode content = .ok more) :
      Reads ⟨opened, text, root⟩ (.cdata content) ⟨opened, text ++ more, root⟩ []
  | finish {opened : List Bytes} {text : String} {root : Option String} (name : Bytes) :
      Reads ⟨name :: opened, text, root⟩ (.finish name) ⟨opened, "", root⟩
        [.closed (nameText (localPart name)) text]

theorem Reads.of_step {r r' : Reading} {t : Token} {nodes : List Node}
    (h : r.step t = .ok (r', nodes)) : Reads r t r' nodes := by
  cases t with
  | start name =>
    rw [Reading.step] at h
    rcases hroot : r.withRoot name with f | r₁
    · rw [hroot] at h
      cases h
    · rw [hroot] at h
      cases h
      obtain ⟨root, hname, rfl⟩ := (Reading.withRoot_eq_ok_iff (t := .start name) rfl).1 hroot
      exact .start name hname
  | empty name =>
    rw [Reading.step] at h
    rcases hroot : r.withRoot name with f | r₁
    · rw [hroot] at h
      cases h
    · rw [hroot] at h
      cases h
      obtain ⟨root, hname, rfl⟩ := (Reading.withRoot_eq_ok_iff (t := .empty name) rfl).1 hroot
      exact .empty name hname
  | text run =>
    rw [Reading.step] at h
    rcases hread : Reading.runText run with f | more
    · rw [hread] at h
      cases h
    · rw [hread] at h
      cases h
      exact .text hread
  | cdata content =>
    rw [Reading.step] at h
    split at h
    · next hread =>
      cases h
      exact .cdata hread
    · cases h
  | finish name =>
    obtain ⟨opened, text, root⟩ := r
    rw [Reading.step] at h
    split at h
    · cases h
    · next hopened =>
      split at h
      · next heq =>
        cases h
        cases hopened
        rw [heq]
        exact .finish _
      · cases h

theorem Reads.step_eq {r r' : Reading} {t : Token} {nodes : List Node}
    (h : Reads r t r' nodes) : r.step t = .ok (r', nodes) := by
  cases h with
  | start name hname =>
    rw [Reading.step, (Reading.withRoot_eq_ok_iff (t := .start name) rfl).2 ⟨_, hname, rfl⟩]
    rfl
  | empty name hname =>
    rw [Reading.step, (Reading.withRoot_eq_ok_iff (t := .empty name) rfl).2 ⟨_, hname, rfl⟩]
    rfl
  | text hread =>
    rw [Reading.step, hread]
    rfl
  | cdata hread => rw [Reading.step, hread]
  | finish name => simp only [Reading.step, if_true]

/-- **What one token does.** -/
theorem Reading.step_eq_ok_iff {r r' : Reading} {t : Token} {nodes : List Node} :
    r.step t = .ok (r', nodes) ↔ Reads r t r' nodes :=
  ⟨Reads.of_step, Reads.step_eq⟩

namespace Document

theorem ofTokens_of_reads {r r' : Reading} {t : Token} {nodes : List Node}
    (h : Reads r t r' nodes) (fault : Option Fault) (ts : List Token) :
    ofTokens fault r (t :: ts) = (ofTokens fault r' ts).after nodes := by
  rw [ofTokens, Reading.step_eq_ok_iff.2 h]
  rfl

end Document

end ObjectStore.Xml
