import ObjectStore.Proofs.Xml.Reading
import ObjectStore.Proofs.Xml.Visitor
/-!
# Documents that were cut off

Every construct of a document ends at the first place where it can end, so what is found is found
whatever follows it (`markup_append`).  Of a document that was cut off this leaves three cases at
the next construct (`nextToken_cut`): it stands in front of the cut and is what it was, or it is
markup that is not closed any more, or it is a run of text of which a part is left.

**A document that was cut off is no document.** If a byte string ends with its first outermost
element (`EndsWithRoot`), then in front of any cut that element has not begun or is still open
(`Unended`), and no reader takes that (`IsReader.rejects_cut`).
-/

namespace ObjectStore.Xml

/-! ### Constructs with more behind them -/

theorem isPrefixOf?_append {start s rest : Bytes} (h : start.isPrefixOf? s = some rest)
    (more : Bytes) : start.isPrefixOf? (s ++ more) = some (rest ++ more) := by
  rw [Text.isPrefixOf?_eq_some_iff] at h ⊢
  rw [h, List.append_assoc]

theorem cutMark?_append {mark s before rest : Bytes}
    (h : Text.cutMark? mark s = some (before, rest)) (more : Bytes) :
    Text.cutMark? mark (s ++ more) = some (before, rest ++ more) := by
  induction s generalizing before with
  | nil =>
    obtain ⟨after, hafter, heq⟩ := Option.map_eq_some_iff.1 h
    cases heq
    have hmore := isPrefixOf?_append hafter more
    cases more with
    | nil => exact congrArg (Option.map _) hmore
    | cons b more =>
      rw [List.nil_append] at hmore ⊢
      rw [Text.cutMark?, hmore]
  | cons b s ih =>
    rw [Text.cutMark?] at h
    rw [List.cons_append, Text.cutMark?]
    rcases hmark : mark.isPrefixOf? (b :: s) with _ | after
    · rw [hmark] at h
      obtain ⟨⟨before', rest'⟩, hcut, heq⟩ := Option.map_eq_some_iff.1 h
      cases heq
      -- the mark does not begin here either with more behind, for the rest is long enough for it
      have hnone : mark.isPrefixOf? (b :: (s ++ more)) = none := by
        rcases hsome : mark.isPrefixOf? (b :: (s ++ more)) with _ | after
        · rfl
        · have hlength := congrArg List.length (Text.append_of_cutMark? hcut)
          have hbytes : mark ++ after = b :: s ++ more :=
            (Text.isPrefixOf?_eq_some_iff.1 hsome).symm
          simp only [List.length_append] at hlength
          have hprefix : mark <+: b :: s :=
            List.prefix_of_prefix_length_le ⟨after, hbytes⟩ (List.prefix_append _ more)
              (by rw [List.length_cons]; omega)
          obtain ⟨y, hy⟩ := hprefix
          rw [Text.isPrefixOf?_eq_some_iff.2 hy.symm] at hmark
          cases hmark
      rw [hnone]
      simp only [ih hcut, Option.map_some]
    · rw [hmark] at h
      cases h
      have hmore := isPrefixOf?_append hmark more
      rw [List.cons_append] at hmore
      rw [hmore]

theorem cutTag?_append {quote : Option UInt8} {s before rest : Bytes}
    (h : cutTag? quote s = some (before, rest)) (more : Bytes) :
    cutTag? quote (s ++ more) = some (before, rest ++ more) := by
  induction s generalizing before quote with
  | nil => cases h
  | cons b s ih =>
    rw [cutTag?.eq_def] at h
    rw [List.cons_append, cutTag?.eq_def]
    dsimp only at h ⊢
    split at h
    · next hclose =>
      cases h
      rw [if_pos hclose]
    · next hclose =>
      obtain ⟨⟨before', rest'⟩, hcut, heq⟩ := Option.map_eq_some_iff.1 h
      cases heq
      rw [if_neg hclose, ih hcut]
      rfl

theorem cutDoctype?_append {depth : Nat} {s before rest : Bytes}
    (h : cutDoctype? depth s = some (before, rest)) (more : Bytes) :
    cutDoctype? depth (s ++ more) = some (before, rest ++ more) := by
  induction s generalizing before depth with
  | nil => cases h
  | cons b s ih =>
    rw [cutDoctype?.eq_def] at h
    rw [List.cons_append, cutDoctype?.eq_def]
    dsimp only at h ⊢
    split at h
    · next hclose =>
      rw [if_pos hclose]
      cases depth with
      | zero =>
        cases h
        rfl
      | succ depth =>
        obtain ⟨⟨before', rest'⟩, hcut, heq⟩ := Option.map_eq_some_iff.1 h
        cases heq
        simp only [ih hcut, Option.map_some]
    · next hclose =>
      obtain ⟨⟨before', rest'⟩, hcut, heq⟩ := Option.map_eq_some_iff.1 h
      cases heq
      rw [if_neg hclose, ih hcut]
      rfl

theorem cutSection?_append {start mark s before rest : Bytes}
    (h : (start.isPrefixOf? s).bind (Text.cutMark? mark) = some (before, rest)) (more : Bytes) :
    (start.isPrefixOf? (s ++ more)).bind (Text.cutMark? mark) = some (before, rest ++ more) := by
  obtain ⟨after, hstart, hmark⟩ := Option.bind_eq_some_iff.1 h
  rw [isPrefixOf?_append hstart, Option.bind_some, cutMark?_append hmark]

theorem declaration_append {s rest : Bytes} {t : Option Token}
    (h : declaration s = .ok (t, rest)) (more : Bytes) :
    declaration (s ++ more) = .ok (t, rest ++ more) := by
  unfold declaration at h
  split at h
  · split at h
    · next hcut =>
      cases h
      have hmore := cutSection?_append hcut more
      rw [List.cons_append] at hmore ⊢
      rw [declaration]
      simp only [hmore]
    · cases h
  · split at h
    · next hcut =>
      cases h
      have hmore := cutSection?_append hcut more
      rw [List.cons_append] at hmore ⊢
      rw [declaration]
      simp only [hmore]
    · cases h
  · next b s hcdata hcomment =>
    split at h
    · next hdoctype =>
      split at h
      · cases h
      · next hcut =>
        have hmore := cutDoctype?_append hcut more
        rw [List.cons_append] at hmore ⊢
        rw [declaration.eq_3 _ _ hcdata hcomment, if_pos hdoctype, hmore]
        split at h
        · cases h
        · next hword =>
          simp only [hword]
          split at h
          · cases h
          · next hname =>
            cases h
            rw [if_neg hname]
    · cases h
  · cases h

theorem markup_append {s rest : Bytes} {t : Option Token} (h : markup s = .ok (t, rest))
    (more : Bytes) : markup (s ++ more) = .ok (t, rest ++ more) := by
  unfold markup at h
  split at h
  · exact declaration_append h more
  · next s =>
    split at h
    · cases h
    · next hempty =>
      split at h
      · next hcut =>
        cases h
        have hmore := cutMark?_append hcut more
        have hempty' : ∀ tail, s ++ more = 62 :: tail → False := by
          intro tail heq
          cases s with
          | nil => cases hcut
          | cons b s =>
            rw [List.cons_append] at heq
            cases heq
            exact hempty s rfl
        rw [List.cons_append, markup.eq_3 _ hempty', hmore]
      · cases h
  · next hdeclaration hinstruction =>
    split at h
    · next hcut =>
      cases h
      have hmore := cutTag?_append hcut more
      cases s with
      | nil => cases hcut
      | cons b s =>
        rw [List.cons_append] at hmore ⊢
        have hdeclaration' : ∀ tail, b :: (s ++ more) = 33 :: tail → False := by
          intro tail heq
          cases heq
          exact hdeclaration s rfl
        have hinstruction' : ∀ tail, b :: (s ++ more) = 63 :: tail → False := by
          intro tail heq
          cases heq
          exact hinstruction s rfl
        rw [markup.eq_4 _ hdeclaration' hinstruction', hmore]
    · cases h

theorem textToken_cases (run : Bytes) :
    textToken run = none ∨ ∃ trimmed, textToken run = some (.text trimmed) := by
  unfold textToken
  split
  · exact .inl rfl
  · exact .inr ⟨_, rfl⟩

theorem run_cases {b : UInt8} (hb : b ≠ 60) (s : Bytes) :
    60 ∉ b :: s ∨ ∃ run left, s = run ++ 60 :: left ∧ 60 ∉ b :: run := by
  by_cases hs : 60 ∈ s
  · obtain ⟨run, left, hsplit, hrun⟩ := List.eq_append_cons_of_mem hs
    refine .inr ⟨run, left, hsplit, ?_⟩
    rw [List.mem_cons, not_or]
    exact ⟨Ne.symm hb, hrun⟩
  · left
    rw [List.mem_cons, not_or]
    exact ⟨Ne.symm hb, hs⟩

theorem nextToken_run_end {b : UInt8} {s : Bytes} (h : 60 ∉ b :: s) :
    nextToken b s = .ok (textToken (b :: s), []) := by
  have hnext := nextToken_run h atTag_nil
  rwa [List.append_nil] at hnext

/-- With more behind it a construct is what it was; a run of text only if a tag follows it. -/
theorem nextToken_append {b : UInt8} {s rest : Bytes} {t : Option Token}
    (h : nextToken b s = .ok (t, rest)) (htag : b = 60 ∨ rest ≠ []) (more : Bytes) :
    nextToken b (s ++ more) = .ok (t, rest ++ more) := by
  by_cases hb : b = 60
  · rw [nextToken, if_pos hb] at h ⊢
    exact markup_append h more
  · rcases run_cases hb s with hrun | ⟨run, left, rfl, hrun⟩
    · rw [nextToken_run_end hrun] at h
      cases h
      exact absurd rfl (htag.resolve_left hb)
    · rw [nextToken_run hrun (atTag_cons left)] at h
      cases h
      rw [List.append_assoc, List.cons_append]
      exact nextToken_run hrun (atTag_cons _)

/-- Of a document that was cut off, the next construct is what it was, or it is not closed any
more, or it is a run of text of which a part is left. -/
theorem nextToken_cut {b : UInt8} {s more rest : Bytes} {t : Option Token}
    (h : nextToken b (s ++ more) = .ok (t, rest)) :
    (∃ left, rest = left ++ more ∧ nextToken b s = .ok (t, left)) ∨
      (∃ f, nextToken b s = .error f) ∨ ∃ run, nextToken b s = .ok (textToken run, []) := by
  by_cases hb : b = 60
  · rw [nextToken, if_pos hb] at h ⊢
    rcases hs : markup s with f | ⟨t', left⟩
    · exact .inr (.inl ⟨f, rfl⟩)
    · rw [markup_append hs] at h
      cases h
      exact .inl ⟨left, rfl, rfl⟩
  · rcases run_cases hb s with hrun | ⟨run, left, rfl, hrun⟩
    · exact .inr (.inr ⟨b :: s, nextToken_run_end hrun⟩)
    · rw [List.append_assoc, List.cons_append, nextToken_run hrun (atTag_cons _)] at h
      cases h
      exact .inl ⟨60 :: left, rfl, nextToken_run hrun (atTag_cons left)⟩

/-! ### The first outermost element -/

namespace Token

/-- How many elements are open behind a token. -/
def depthAfter (depth : Nat) : Token → Nat
  | .start _ => depth + 1
  | .finish _ => depth - 1
  | _ => depth

/-- Whether a token ends an element that no other element is around. -/
def EndsOutermost (depth : Nat) : Token → Prop
  | .empty _ => depth = 0
  | .finish _ => depth = 1
  | _ => False

instance (depth : Nat) (t : Token) : Decidable (t.EndsOutermost depth) := by
  unfold EndsOutermost
  split
  · infer_instance
  · infer_instance
  · infer_instance

end Token

/-- What follows the first outermost element, when `depth` elements are open. -/
def afterFirst? (depth : Nat) : Bytes → Option Bytes
  | [] => none
  | b :: s =>
    match h : nextToken b s with
    | .error _ => none
    | .ok (none, rest) =>
      have := length_nextToken h
      afterFirst? depth rest
    | .ok (some t, rest) =>
      have := length_nextToken h
      if t.EndsOutermost depth then some rest else afterFirst? (t.depthAfter depth) rest
  termination_by s => s.length
  decreasing_by all_goals simp; omega

theorem afterFirst?_cons (depth : Nat) (b : UInt8) (s : Bytes) :
    afterFirst? depth (b :: s) =
      match nextToken b s with
      | .error _ => none
      | .ok (none, rest) => afterFirst? depth rest
      | .ok (some t, rest) =>
        if t.EndsOutermost depth then some rest else afterFirst? (t.depthAfter depth) rest := by
  rw [afterFirst?]
  split
  · next heq => simp only [heq]
  · next heq => simp only [heq]
  · next heq => simp only [heq]

/-- Whether a document ends with its first outermost element: where that element ends there is
nothing more. -/
def EndsWithRoot (s : Bytes) : Prop := afterFirst? 0 (Document.withoutMark s) = some []

/-! ### Before the first outermost element has ended -/

namespace Reading

/-- Whether the first outermost element has not ended: it is open, or it has not begun. -/
def Unended (depth : Nat) (r : Reading) : Prop :=
  r.opened.length = depth ∧ (depth = 0 → r.root = none)

theorem unended_start : Unended 0 start := ⟨rfl, fun _ => rfl⟩

/-- A token that does not end the first outermost element leaves it unended. -/
theorem Unended.step {depth : Nat} {r r' : Reading} {t : Token} {nodes : List Node}
    (h : Unended depth r) (hends : ¬t.EndsOutermost depth) (hstep : r.step t = .ok (r', nodes)) :
    Unended (t.depthAfter depth) r' := by
  obtain ⟨hdepth, hroot⟩ := h
  cases step_eq_ok_iff.1 hstep with
  | start name => exact ⟨congrArg (· + 1) hdepth, nofun⟩
  | empty name => exact ⟨hdepth, fun hzero => absurd hzero hends⟩
  | text => exact ⟨hdepth, hroot⟩
  | cdata => exact ⟨hdepth, hroot⟩
  | @finish opened _ _ name =>
    have hlength : opened.length + 1 = depth := hdepth
    have hone : depth ≠ 1 := hends
    have hless : opened.length = depth - 1 := by omega
    exact ⟨hless, fun hzero => absurd hzero (by rw [Token.depthAfter]; omega)⟩

end Reading

namespace Document

theorem root_readFrom_nil {depth : Nat} {r : Reading} (h : r.Unended depth) (name : String) :
    (readFrom r []).root ≠ .ok (some name) := by
  obtain ⟨hdepth, hroot⟩ := h
  have hread : (readFrom r []).root =
      if r.opened.isEmpty then .ok r.root else .error .cutOff := by
    rw [readFrom, tokens]
    rfl
  rw [hread]
  split
  · next hempty =>
    rw [List.isEmpty_iff] at hempty
    rw [hroot (by rw [← hdepth, hempty]; rfl)]
    intro h
    cases h
  · intro h
    cases h

theorem root_readFrom_of_error {b : UInt8} {s : Bytes} {f : Fault}
    (h : nextToken b s = .error f) (r : Reading) : (readFrom r (b :: s)).root = .error f := by
  have htokens : tokens (b :: s) = ([], some f) := by
    rw [tokens]
    split
    · next heq =>
      rw [h] at heq
      cases heq
      rfl
    · next heq =>
      rw [h] at heq
      cases heq
  rw [readFrom, htokens]
  rfl

theorem root_readFrom_of_step_error {b : UInt8} {s rest : Bytes} {t : Token} {r : Reading}
    {f : Fault} (h : nextToken b s = .ok (some t, rest)) (hstep : r.step t = .error f) :
    (readFrom r (b :: s)).root = .error f := by
  rw [readFrom, tokens_cons h]
  simp only [Option.toList_some, List.singleton_append, ofTokens, hstep]

/-- No root is found where none was found behind the next token, if that does not end the first
outermost element. -/
theorem root_readFrom_of_token {depth : Nat} {r : Reading} (h : r.Unended depth) {b : UInt8}
    {s rest : Bytes} {t : Token} (hnext : nextToken b s = .ok (some t, rest))
    (hends : ¬t.EndsOutermost depth) {name : String}
    (hrest : ∀ r' : Reading, r'.Unended (t.depthAfter depth) →
      (readFrom r' rest).root ≠ .ok (some name)) :
    (readFrom r (b :: s)).root ≠ .ok (some name) := by
  rcases hstep : r.step t with f | ⟨r', nodes⟩
  · rw [root_readFrom_of_step_error hnext hstep]
    intro h
    cases h
  · rw [readFrom_of_step hnext hstep]
    exact hrest r' (h.step hends hstep)

theorem root_readFrom_of_run {depth : Nat} {r : Reading} (h : r.Unended depth) {b : UInt8}
    {s run : Bytes} (hnext : nextToken b s = .ok (textToken run, [])) (name : String) :
    (readFrom r (b :: s)).root ≠ .ok (some name) := by
  rcases textToken_cases run with htext | ⟨trimmed, htext⟩
  · rw [htext] at hnext
    rw [readFrom_of_none hnext]
    exact root_readFrom_nil h name
  · rw [htext] at hnext
    exact root_readFrom_of_token h hnext id fun r' hr' => root_readFrom_nil hr' name

theorem root_readFrom_cut {depth : Nat} {r : Reading} (h : r.Unended depth) {p q : Bytes}
    (hq : q ≠ []) (hend : afterFirst? depth (p ++ q) = some []) (name : String) :
    (readFrom r p).root ≠ .ok (some name) := by
  -- construct by construct up to the cut; in front of it the element stays unended, and at the cut
  -- itself there is a fault, or text, or nothing
  match p with
  | [] => exact root_readFrom_nil h name
  | b :: s =>
    rw [List.cons_append, afterFirst?_cons] at hend
    rcases hnext : nextToken b (s ++ q) with f | ⟨t, rest⟩
    · rw [hnext] at hend
      cases hend
    · rw [hnext] at hend
      rcases nextToken_cut hnext with ⟨left, rfl, hleft⟩ | ⟨f, hf⟩ | ⟨run, hrun⟩
      · have hlength := length_nextToken hleft
        cases t with
        | none =>
          rw [readFrom_of_none hleft]
          exact root_readFrom_cut h hq hend name
        | some t =>
          dsimp only at hend
          split at hend
          · -- the element would end in front of the cut, and the document with it
            rw [Option.some.injEq, List.append_eq_nil_iff] at hend
            exact absurd hend.2 hq
          · next hends =>
            exact root_readFrom_of_token h hleft hends fun r' hr' =>
              root_readFrom_cut hr' hq hend name
      · rw [root_readFrom_of_error hf]
        intro h
        cases h
      · exact root_readFrom_of_run h hrun name
  termination_by p.length
  decreasing_by all_goals rw [List.length_cons]; omega

theorem withoutMark_append (p q : Bytes) :
    withoutMark (p ++ q) = withoutMark p ++ q ∨ p ∈ [[], [0xEF], [0xEF, 0xBB]] := by
  by_cases hmark : ∃ s, p ++ q = 0xEF :: 0xBB :: 0xBF :: s
  · obtain ⟨s, hs⟩ := hmark
    match p with
    | [] => exact .inr List.mem_cons_self
    | [a] =>
      cases hs
      exact .inr (by decide)
    | [a, b] =>
      cases hs
      exact .inr (by decide)
    | a :: b :: c :: p =>
      cases hs
      exact .inl rfl
  · left
    have hp : ∀ s, p ≠ 0xEF :: 0xBB :: 0xBF :: s := by
      rintro s rfl
      exact hmark ⟨s ++ q, rfl⟩
    rw [withoutMark.eq_2 _ fun s hs => hmark ⟨s, hs⟩, withoutMark.eq_2 _ hp]

/-- **A document that was cut off has no root.** -/
theorem root_ofBytes_cut {p q : Bytes} (hq : q ≠ []) (hend : EndsWithRoot (p ++ q))
    (name : String) : (ofBytes p).root ≠ .ok (some name) := by
  show (readFrom Reading.start (withoutMark p)).root ≠ _
  rcases withoutMark_append p q with hmark | hpart
  · rw [EndsWithRoot, hmark] at hend
    exact root_readFrom_cut Reading.unended_start hq hend name
  · simp only [List.mem_cons, List.not_mem_nil, or_false] at hpart
    rcases hpart with rfl | rfl | rfl
    · exact root_readFrom_nil Reading.unended_start name
    · exact root_readFrom_of_run Reading.unended_start rfl name
    · exact root_readFrom_of_run Reading.unended_start rfl name

end Document

/-- **A document that was cut off is no document.** Where a byte string ends with its first
outermost element, no reader takes what is left of it in front of a cut, wherever that is. -/
theorem IsReader.rejects_cut {α : Type} {read : Bytes → Except Fault α} (h : IsReader read)
    {d p : Bytes} (hend : EndsWithRoot d) (hcut : p <+: d) (hne : p ≠ d) :
    ∃ f, read p = .error f := by
  obtain ⟨v, hv, _⟩ := h.exists_visitor
  obtain ⟨q, rfl⟩ := hcut
  have hq : q ≠ [] := by
    rintro rfl
    exact hne (List.append_nil p).symm
  rw [hv]
  exact v.exists_fault (Document.root_ofBytes_cut hq hend)

/-- A page that is taken as a whole and cut off inside a character. -/
theorem rejects_cut_character :
    let d :=
      utf8 "<ListBucketResult><!-- > --><Contents><Key>&amp;é</Key></Contents></ListBucketResult>"
    let p := d.take 49
    IsReader Listing.ObjectsPage.read ∧ (Listing.ObjectsPage.read d).toOption.isSome = true ∧
      EndsWithRoot d ∧ p <+: d ∧ p ≠ d ∧ ∃ f, Listing.ObjectsPage.read p = .error f := by
  intro d p
  have hend : afterFirst? 0 (Document.withoutMark d) = some [] := by decide +kernel
  have hcut : p <+: d := List.take_prefix 49 d
  have hne : p ≠ d := by decide +kernel
  exact ⟨.objects, by decide +kernel, hend, hcut, hne, IsReader.objects.rejects_cut hend hcut hne⟩

end ObjectStore.Xml
