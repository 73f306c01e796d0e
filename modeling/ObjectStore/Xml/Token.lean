import ObjectStore.Text.Blank
import ObjectStore.Text.Cut
import ObjectStore.Xml.Fault
/-!
# Tokens of a document

The reader first cuts a document into tags, runs of text and CDATA sections.  Comments,
processing instructions and the document type leave no token, yet they end the run of text
before them.  Names and attributes are not looked into here: a tag is everything up to the
first `>` outside quotes.
-/

namespace ObjectStore.Xml

/-- What stands at one place of a document. -/
inductive Token where
  /-- A start tag with its full name. -/
  | start (name : Bytes)
  /-- A tag that is start and end in one. -/
  | empty (name : Bytes)
  /-- An end tag with its full name. -/
  | finish (name : Bytes)
  /-- A run of text without the blanks around it, never empty. -/
  | text (run : Bytes)
  | cdata (content : Bytes)
  deriving Repr, DecidableEq

/-! ### Finding the end of a construct -/

/-- What stands before the `>` that closes a document type with `depth` markup
declarations open, and what follows it. -/
def cutDoctype? (depth : Nat) : Bytes → Option (Bytes × Bytes)
  | [] => none
  | b :: s =>
    if b = 62 then
      match depth with
      | 0 => some ([], s)
      | d + 1 => (cutDoctype? d s).map fun (before, rest) => (b :: before, rest)
    else
      let d := if b = 60 then depth + 1 else depth
      (cutDoctype? d s).map fun (before, rest) => (b :: before, rest)

/-- What stands before the `>` that closes a tag, and what follows it.  Inside quotes the
quote that will close them is given. -/
def cutTag? (quote : Option UInt8) : Bytes → Option (Bytes × Bytes)
  | [] => none
  | b :: s =>
    if quote = none ∧ b = 62 then some ([], s)
    else
      let next :=
        match quote with
        | some q => if b = q then none else some q
        | none => if b = 34 ∨ b = 39 then some b else none
      (cutTag? next s).map fun (before, rest) => (b :: before, rest)

theorem length_isPrefixOf? {start s rest : Bytes} (h : start.isPrefixOf? s = some rest) :
    rest.length ≤ s.length := by
  rw [Text.isPrefixOf?_eq_some_iff.1 h, List.length_append]
  exact Nat.le_add_left _ _

theorem length_cutMark? {mark s before rest : Bytes}
    (h : Text.cutMark? mark s = some (before, rest)) : rest.length ≤ s.length := by
  rw [← Text.append_of_cutMark? h, List.length_append]
  exact Nat.le_add_left _ _

theorem length_cutDoctype? {depth : Nat} {s before rest : Bytes}
    (h : cutDoctype? depth s = some (before, rest)) : rest.length ≤ s.length := by
  induction s generalizing before depth with
  | nil => simp [cutDoctype?] at h
  | cons b s ih =>
    rw [cutDoctype?.eq_def] at h
    dsimp only at h
    split at h
    · split at h
      · cases h; simp
      · obtain ⟨⟨x, y⟩, hx, he⟩ := Option.map_eq_some_iff.1 h
        cases he
        exact Nat.le_succ_of_le (ih hx)
    · obtain ⟨⟨x, y⟩, hx, he⟩ := Option.map_eq_some_iff.1 h
      cases he
      exact Nat.le_succ_of_le (ih hx)

theorem length_cutTag? {quote : Option UInt8} {s before rest : Bytes}
    (h : cutTag? quote s = some (before, rest)) : rest.length ≤ s.length := by
  induction s generalizing before quote with
  | nil => simp [cutTag?] at h
  | cons b s ih =>
    rw [cutTag?.eq_def] at h
    dsimp only at h
    split at h
    · cases h; simp
    · obtain ⟨⟨x, y⟩, hx, he⟩ := Option.map_eq_some_iff.1 h
      cases he
      exact Nat.le_succ_of_le (ih hx)

/-! ### One token -/

def tagToken (content : Bytes) : Token :=
  match content with
  | 47 :: name =>
    match Text.trimEnd isXmlBlank name with
    | [] => .finish name
    | trimmed => .finish trimmed
  | _ =>
    if content.getLast? = some 47 then
      .empty (content.dropLast.takeWhile (!isXmlBlank ·))
    else .start (content.takeWhile (!isXmlBlank ·))
where
  isXmlBlank := Text.isXmlBlank

/-- `[CDATA[` -/
def cdataOpen : Bytes := [91, 67, 68, 65, 84, 65, 91]

/-- `]]>` -/
def cdataClose : Bytes := [93, 93, 62]

/-- `--` -/
def commentOpen : Bytes := [45, 45]

/-- `-->` -/
def commentClose : Bytes := [45, 45, 62]

/-- `?>` -/
def instructionClose : Bytes := [63, 62]

/-- `doctype` -/
def doctypeWord : Bytes := [100, 111, 99, 116, 121, 112, 101]

def lowerByte (b : UInt8) : UInt8 := if 65 ≤ b ∧ b ≤ 90 then b + 32 else b

/-- Read on after `<!`: a CDATA section, a comment or a document type. -/
def declaration (s : Bytes) : Except Fault (Option Token × Bytes) :=
  match s with
  | 91 :: _ =>
    match (cdataOpen.isPrefixOf? s).bind (Text.cutMark? cdataClose) with
    | some (content, rest) => .ok (some (.cdata content), rest)
    | none => .error (.unclosed .cdata)
  | 45 :: _ =>
    match (commentOpen.isPrefixOf? s).bind (Text.cutMark? commentClose) with
    | some (_, rest) => .ok (none, rest)
    | none => .error (.unclosed .comment)
  | b :: _ =>
    if lowerByte b = 100 then
      match cutDoctype? 0 s with
      | none => .error (.unclosed .doctype)
      | some (content, rest) =>
        match doctypeWord.isPrefixOf? ((content.take 7).map lowerByte) with
        | none => .error (.unclosed .doctype)
        | some _ =>
          if (content.drop 7).all Text.isXmlBlank then .error .unnamedDoctype
          else .ok (none, rest)
    else .error .unknownMarkup
  | [] => .error .unknownMarkup

def markup (s : Bytes) : Except Fault (Option Token × Bytes) :=
  match s with
  | 33 :: s => declaration s
  | 63 :: s =>
    match s with
    | 62 :: _ => .error (.unclosed .instruction)
    | _ =>
      match Text.cutMark? instructionClose s with
      | some (_, rest) => .ok (none, rest)
      | none => .error (.unclosed .instruction)
  | _ =>
    match cutTag? none s with
    | some (content, rest) => .ok (some (tagToken content), rest)
    | none => .error (.unclosed .tag)

def textToken (run : Bytes) : Option Token :=
  match Text.trimBoth Text.isXmlBlank run with
  | [] => none
  | trimmed => some (.text trimmed)

/-- What stands at the beginning of `b :: s`, and what follows it. -/
def nextToken (b : UInt8) (s : Bytes) : Except Fault (Option Token × Bytes) :=
  if b = 60 then markup s
  else .ok (textToken (b :: s.takeWhile (· != 60)), s.dropWhile (· != 60))

theorem length_declaration {s rest : Bytes} {t : Option Token}
    (h : declaration s = .ok (t, rest)) : rest.length ≤ s.length := by
  unfold declaration at h
  split at h
  · split at h
    · next hb =>
      cases h
      obtain ⟨x, hx, hy⟩ := Option.bind_eq_some_iff.1 hb
      exact Nat.le_trans (length_cutMark? hy) (length_isPrefixOf? hx)
    · cases h
  · split at h
    · next hb =>
      cases h
      obtain ⟨x, hx, hy⟩ := Option.bind_eq_some_iff.1 hb
      exact Nat.le_trans (length_cutMark? hy) (length_isPrefixOf? hx)
    · cases h
  · split at h
    · split at h
      · cases h
      · next hc =>
        split at h
        · cases h
        · split at h
          · cases h
          · cases h; exact length_cutDoctype? hc
    · cases h
  · cases h

theorem length_markup {s rest : Bytes} {t : Option Token} (h : markup s = .ok (t, rest)) :
    rest.length ≤ s.length := by
  unfold markup at h
  split at h
  · exact Nat.le_succ_of_le (length_declaration h)
  · split at h
    · cases h
    · split at h
      · next hc => cases h; exact Nat.le_succ_of_le (length_cutMark? hc)
      · cases h
  · split at h
    · next hc => cases h; exact length_cutTag? hc
    · cases h

theorem length_nextToken {b : UInt8} {s rest : Bytes} {t : Option Token}
    (h : nextToken b s = .ok (t, rest)) : rest.length ≤ s.length := by
  unfold nextToken at h
  split at h
  · exact length_markup h
  · cases h; exact (List.dropWhile_suffix _).length_le

/-! ### All tokens -/

/-- The tokens of a document in order, and the fault that ends them if there is one. -/
def tokens : Bytes → List Token × Option Fault
  | [] => ([], none)
  | b :: s =>
    match h : nextToken b s with
    | .error fault => ([], some fault)
    | .ok (t, rest) =>
      have := length_nextToken h
      let (ts, fault) := tokens rest
      (t.toList ++ ts, fault)
  termination_by s => s.length
  decreasing_by simp; omega

end ObjectStore.Xml
