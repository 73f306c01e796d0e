import ObjectStore.Proofs.QueryShortcut
import ObjectStore.Proofs.SignedRequest
/-!
# What a canonical request says

A canonical request is lines: method, path and query, a line for each header, an empty one, the
names of the headers and the digest.  `CanonicalForm.read?` takes these lines apart again.  It needs
no more than that no line feed stands inside of a line and no colon inside of a name, for the header
lines are then those before the first empty one, and a value begins at the first colon.

**No two requests are signed alike** (`SigningOrder.canonicalText_eq_iff`): calls with the same
canonical request are for the same method, path, query, headers and digest, but for blanks at the
ends of values.
-/

namespace ObjectStore

/-- What a canonical request says. -/
structure CanonicalForm where
  method : String
  path : String
  query : String
  /-- The headers, each with its value without blanks at the ends. -/
  fields : List (String × String)
  digest : String

namespace CanonicalForm

def fieldLine (h : String × String) : String := h.1 ++ ":" ++ h.2

def names (f : CanonicalForm) : String := ";".intercalate (f.fields.map Prod.fst)

/-- The lines of a canonical request.  An empty one ends the headers. -/
def lines (f : CanonicalForm) : List String :=
  [f.method, f.path, f.query] ++ f.fields.map fieldLine ++ ["", f.names, f.digest]

def text (f : CanonicalForm) : String := "\n".intercalate f.lines

/-- Lines in front of others are these lines, each with its end. -/
theorem intercalate_append {l rest : List String} (h : rest ≠ []) :
    "\n".intercalate (l ++ rest) = String.join (l.map (· ++ "\n")) ++ "\n".intercalate rest := by
  induction l with
  | nil => rw [List.nil_append, List.map_nil, String.join_nil, String.empty_append]
  | cons line l ih =>
    have hne : l ++ rest ≠ [] := List.append_ne_nil_of_right_ne_nil l h
    rw [List.cons_append, String.intercalate_cons_of_ne_nil hne, ih, List.map_cons,
      String.join_cons, ← String.append_assoc]

/-- What the signer puts together is the text of a form. -/
theorem canonicalRequest_eq (method path query : String) (headers : Table String)
    (digest : String) :
    Signature.canonicalRequest method path query headers digest =
      text { method, path, query := Signature.canonicalQuery query,
             fields := headers.entries.map fun h => (h.1, Text.trim h.2), digest } := by
  have hlines : String.join (((headers.entries.map fun h => (h.1, Text.trim h.2)).map
      fieldLine).map (· ++ "\n")) = Signature.canonicalHeaders headers := by
    rw [List.map_map, List.map_map]
    rfl
  have hnames : ";".intercalate ((headers.entries.map fun h => (h.1, Text.trim h.2)).map
      Prod.fst) = Signature.signedNames headers := by
    rw [List.map_map]
    rfl
  rw [text, lines, names, List.append_assoc, intercalate_append (by simp),
    intercalate_append (by simp), hlines, hnames]
  simp only [Signature.canonicalRequest, String.intercalate_cons_cons,
    String.intercalate_singleton, List.map_cons, List.map_nil, String.join_cons, String.join_nil,
    String.append_assoc, String.empty_append]

/-! ### Reading it -/

/-- No line feed stands inside of a line and no colon inside of a name. -/
structure Legible (f : CanonicalForm) : Prop where
  lines : ∀ line ∈ f.lines, '\n' ∉ line.toList
  names : ∀ h ∈ f.fields, ':' ∉ h.1.toList

/-- It is enough that the parts of the lines have none. -/
theorem legible_of_parts {method path query : String} {fields : List (String × String)}
    {digest : String} (hmethod : '\n' ∉ method.toList) (hpath : '\n' ∉ path.toList)
    (hquery : '\n' ∉ query.toList)
    (hfields : ∀ h ∈ fields, ('\n' ∉ h.1.toList ∧ ':' ∉ h.1.toList) ∧ '\n' ∉ h.2.toList)
    (hdigest : '\n' ∉ digest.toList) : Legible { method, path, query, fields, digest } := by
  constructor
  · intro line hline
    simp only [lines, List.mem_append, List.mem_cons, List.not_mem_nil, or_false] at hline
    rcases hline with ((rfl | rfl | rfl) | hfield) | rfl | hnames | rfl
    · exact hmethod
    · exact hpath
    · exact hquery
    · obtain ⟨h, hmem, rfl⟩ := List.mem_map.1 hfield
      obtain ⟨⟨hname, -⟩, hvalue⟩ := hfields h hmem
      simp [fieldLine, hname, hvalue]
    · exact List.not_mem_nil
    · intro hmem
      rw [hnames] at hmem
      rcases Text.mem_intercalate hmem with hsep | ⟨name, hname, hstands⟩
      · revert hsep
        decide
      · obtain ⟨h, hmem, rfl⟩ := List.mem_map.1 hname
        exact (hfields h hmem).1.1 hstands
    · exact hdigest
  · intro h hmem
    exact (hfields h hmem).1.2

def readField (line : List Char) : String × String :=
  let (name, value) := Text.cut ':' line
  (String.ofList name, String.ofList (value.getD []))

/-- The form that is written in lines.  The names of the headers stand there a second time, and are
not looked at. -/
def ofLines? : List (List Char) → Option CanonicalForm
  | method :: path :: query :: rest =>
    match rest.dropWhile (!·.isEmpty) with
    | [_, _, digest] =>
      some {
        method := String.ofList method, path := String.ofList path, query := String.ofList query,
        fields := (rest.takeWhile (!·.isEmpty)).map readField, digest := String.ofList digest }
    | _ => none
  | _ => none

def read? (text : String) : Option CanonicalForm := ofLines? (text.toList.splitOn '\n')

variable {f : CanonicalForm}

theorem readField_fieldLine {h : String × String} (hname : ':' ∉ h.1.toList) :
    readField (fieldLine h).toList = h := by
  have hline : (fieldLine h).toList = h.1.toList ++ ':' :: h.2.toList := by simp [fieldLine]
  simp only [readField, hline, Text.cut_append_sep hname, Option.getD_some, String.ofList_toList]

theorem isEmpty_fieldLine (h : String × String) : (fieldLine h).toList.isEmpty = false := by
  simp [fieldLine]

theorem splitOn_text (h : f.Legible) : f.text.toList.splitOn '\n' = f.lines.map String.toList := by
  rw [text, String.toList_intercalate]
  apply List.splitOn_intercalate '\n'
  · intro line hline
    obtain ⟨s, hs, rfl⟩ := List.mem_map.1 hline
    exact h.lines s hs
  · simp [lines]

/-- **A canonical request says what it was made from.** -/
theorem read?_text (h : f.Legible) : read? f.text = some f := by
  -- a header line is not empty, so that the first empty line ends them
  have hheaders : ∀ line ∈ (f.fields.map fieldLine).map String.toList,
      (!line.isEmpty) = true := by
    intro line hline
    rw [List.map_map] at hline
    obtain ⟨field, -, rfl⟩ := List.mem_map.1 hline
    exact congrArg (!·) (isEmpty_fieldLine field)
  have hfields : ((f.fields.map fieldLine).map String.toList).map readField = f.fields := by
    rw [List.map_map, List.map_map]
    conv_rhs => rw [← List.map_id f.fields]
    exact List.map_congr_left fun field hfield => readField_fieldLine (h.names field hfield)
  rw [read?, splitOn_text h, lines, List.append_assoc, List.map_append, List.map_append]
  simp only [List.map_cons, List.map_nil, List.cons_append, List.nil_append, ofLines?,
    List.takeWhile_append_of_pos hheaders, List.dropWhile_append_of_pos hheaders,
    List.takeWhile_cons, List.dropWhile_cons, String.toList_empty, List.isEmpty_nil, Bool.not_true,
    Bool.false_eq_true, if_false, List.append_nil, hfields, String.ofList_toList]

theorem eq_of_text_eq {f' : CanonicalForm} (h : f.Legible) (h' : f'.Legible)
    (heq : f.text = f'.text) : f = f' := by
  have hread := read?_text h
  rw [heq, read?_text h'] at hread
  exact (Option.some.inj hread).symm

end CanonicalForm

/-! ### What a signature sees of a URL -/

namespace Text

theorem mem_of_mem_cut {sep c : Char} {l : List Char} :
    (c ∈ (cut sep l).1 → c ∈ l) ∧ (c ∈ (cut sep l).2.getD [] → c ∈ l) := by
  cases hcut : cut sep l with
  | mk before after =>
    cases after with
    | none =>
      rw [eq_of_cut hcut]
      exact ⟨id, fun h => absurd h List.not_mem_nil⟩
    | some after =>
      rw [← append_of_cut hcut]
      exact ⟨fun h => List.mem_append_left _ h,
        fun h => List.mem_append_right _ (List.mem_cons_of_mem _ h)⟩

theorem mem_of_mem_afterStart? {start s rest : String} {c : Char}
    (h : afterStart? start s = some rest) (hc : c ∈ rest.toList) : c ∈ s.toList := by
  obtain ⟨cs, hcs, rfl⟩ := Option.map_eq_some_iff.1 h
  rw [isPrefixOf?_eq_some_iff.1 hcs]
  rw [String.toList_ofList] at hc
  exact List.mem_append_right _ hc

theorem mem_of_mem_beforeEnd? {ending s : String} {c : Char}
    (h : c ∈ ((beforeEnd? ending s).getD s).toList) : c ∈ s.toList := by
  unfold beforeEnd? at h
  split at h
  · rw [Option.getD_some, String.toList_ofList] at h
    exact List.mem_of_mem_take h
  · exact h

end Text

namespace Signature

variable {url : String} {c : Char}

theorem mem_of_mem_withoutScheme (h : c ∈ (withoutScheme url).toList) : c ∈ url.toList := by
  unfold withoutScheme at h
  cases hsecure : Text.afterStart? "https://" url with
  | some rest =>
    rw [hsecure] at h
    exact Text.mem_of_mem_afterStart? hsecure h
  | none =>
    rw [hsecure] at h
    cases hplain : Text.afterStart? "http://" url with
    | some rest =>
      rw [hplain] at h
      exact Text.mem_of_mem_afterStart? hplain h
    | none =>
      rw [hplain] at h
      exact h

/-- The parts of a URL stand in it, but for the path of a URL without one. -/
theorem notMem_urlParts (hslash : c ≠ '/') (h : c ∉ url.toList) :
    c ∉ (urlParts url).host.toList ∧ c ∉ (urlParts url).path.toList ∧
      c ∉ (urlParts url).query.toList := by
  have hrest : c ∉ (withoutScheme url).toList := fun hmem => h (mem_of_mem_withoutScheme hmem)
  have hauthority : c ∉ (withoutScheme url).toList.takeWhile (· ≠ '/') :=
    fun hmem => hrest (List.takeWhile_subset _ hmem)
  have htarget : c ∉ (withoutScheme url).toList.dropWhile (· ≠ '/') :=
    fun hmem => hrest (List.dropWhile_subset _ hmem)
  have htarget' : c ∉ (if ((withoutScheme url).toList.dropWhile (· ≠ '/')).isEmpty then ['/']
      else (withoutScheme url).toList.dropWhile (· ≠ '/')) := by
    split
    · simpa using hslash
    · exact htarget
  simp only [urlParts, List.span_eq_takeWhile_dropWhile, hostOf, String.toList_ofList]
  refine ⟨?_, ?_, ?_⟩
  · intro hmem
    have hstands := Text.mem_of_mem_beforeEnd? hmem
    rw [String.toList_ofList] at hstands
    exact hauthority hstands
  · intro hmem
    exact htarget' (Text.mem_of_mem_cut.1 hmem)
  · intro hmem
    exact htarget' (Text.mem_of_mem_cut.2 hmem)

theorem notMem_canonicalQuery {query : String} (hc : isQueryChar c = false)
    (h : c ∉ query.toList) : c ∉ (canonicalQuery query).toList := by
  unfold canonicalQuery
  split
  · simp
  · split
    · exact h
    · intro hmem
      obtain ⟨parameters, -, -, hquery⟩ := isCanonical_rebuiltQuery query
      rw [hquery] at hmem
      have hall := List.all_eq_true.1 (all_isQueryChar_intercalate parameters) c hmem
      rw [hc] at hall
      cases hall

end Signature

theorem Moment.notMem_secondStamp {c : Char} (hc : c.isDigit = false) (hsign : c ≠ '-' ∧ c ≠ '+')
    (hmarks : c ≠ 'T' ∧ c ≠ 'Z') (m : Moment) : c ∉ m.secondStamp.toList := by
  simp [secondStamp, notMem_dayStamp hc hsign m, notMem_padded hc, hmarks.1, hmarks.2]

/-! ### Calls -/

namespace SigningOrder

/-- What the canonical request of a call says. -/
def form (o : SigningOrder) : CanonicalForm where
  method := o.method
  path := (Signature.urlParts o.url).path
  query := Signature.canonicalQuery (Signature.urlParts o.url).query
  fields := o.signed.entries.map fun h => (h.1, Text.trim h.2)
  digest := o.digest.text

theorem canonicalText_eq (o : SigningOrder) : o.canonicalText = o.form.text :=
  CanonicalForm.canonicalRequest_eq _ _ _ _ _

/-- Nothing that is given to the signer has a line feed in it, and no name of a header a colon. -/
structure SingleLined (o : SigningOrder) : Prop where
  method : '\n' ∉ o.method.toList
  url : '\n' ∉ o.url.toList
  names : ∀ h ∈ o.headers.entries, '\n' ∉ h.1.toList ∧ ':' ∉ h.1.toList
  values : ∀ h ∈ o.headers.entries, '\n' ∉ h.2.toList
  digest : '\n' ∉ o.digest.text.toList

variable {o o' : SigningOrder}

theorem mem_signed {h : String × String} (hmem : h ∈ o.signed.entries) :
    h = (Metadata.payloadDigestName, o.digest.text) ∨ h = ("x-amz-date", o.now.secondStamp) ∨
      h = ("host", (Signature.urlParts o.url).host) ∨ h ∈ o.headers.entries := by
  rcases Table.mem_put hmem with hdigest | hmem
  · exact .inl hdigest
  · rcases Table.mem_put hmem with hdate | hmem
    · exact .inr (.inl hdate)
    · exact .inr (.inr (Table.mem_put hmem))

theorem plain_signerNames : ∀ name ∈ signerNames, '\n' ∉ name.toList ∧ ':' ∉ name.toList := by
  decide

/-- The signer's own headers are no worse than those it is given. -/
theorem SingleLined.of_mem_signed (h : o.SingleLined) {e : String × String}
    (hmem : e ∈ o.signed.entries) :
    ('\n' ∉ e.1.toList ∧ ':' ∉ e.1.toList) ∧ '\n' ∉ e.2.toList := by
  rcases mem_signed hmem with rfl | rfl | rfl | hgiven
  · exact ⟨plain_signerNames Metadata.payloadDigestName (by decide), h.digest⟩
  · exact ⟨plain_signerNames "x-amz-date" (by decide),
      Moment.notMem_secondStamp (by decide) (by decide) (by decide) o.now⟩
  · refine ⟨plain_signerNames "host" (by decide), ?_⟩
    dsimp only
    exact (Signature.notMem_urlParts (by decide) h.url).1
  · exact ⟨h.names e hgiven, h.values e hgiven⟩

theorem SingleLined.legible (h : o.SingleLined) : o.form.Legible := by
  obtain ⟨-, hpath, hgiven⟩ := Signature.notMem_urlParts (by decide) h.url
  have hquery := Signature.notMem_canonicalQuery (by decide) hgiven
  rw [form]
  refine CanonicalForm.legible_of_parts h.method hpath hquery ?_ h.digest
  intro field hmem
  obtain ⟨e, he, rfl⟩ := List.mem_map.1 hmem
  obtain ⟨hname, hvalue⟩ := h.of_mem_signed he
  refine ⟨hname, ?_⟩
  rw [Text.trim, String.toList_ofList]
  exact fun hblank => hvalue (Text.mem_of_mem_trimBoth hblank)

/-- Two calls are for the same request.  Blanks at the ends of values do not count. -/
structure SameRequest (o o' : SigningOrder) : Prop where
  method : o.method = o'.method
  path : (Signature.urlParts o.url).path = (Signature.urlParts o'.url).path
  query : Signature.canonicalQuery (Signature.urlParts o.url).query =
    Signature.canonicalQuery (Signature.urlParts o'.url).query
  /-- Host, date and digest are among these. -/
  headers : o.signed.entries.map (fun h => (h.1, Text.trim h.2)) =
    o'.signed.entries.map fun h => (h.1, Text.trim h.2)
  digest : o.digest.text = o'.digest.text

theorem form_eq_iff : o.form = o'.form ↔ o.SameRequest o' := by
  rw [form, form, CanonicalForm.mk.injEq]
  constructor
  · rintro ⟨hmethod, hpath, hquery, hheaders, hdigest⟩
    exact ⟨hmethod, hpath, hquery, hheaders, hdigest⟩
  · rintro ⟨hmethod, hpath, hquery, hheaders, hdigest⟩
    exact ⟨hmethod, hpath, hquery, hheaders, hdigest⟩

/-- **No two requests are signed alike.** -/
theorem canonicalText_eq_iff (h : o.SingleLined) (h' : o'.SingleLined) :
    o.canonicalText = o'.canonicalText ↔ o.SameRequest o' := by
  rw [canonicalText_eq, canonicalText_eq, ← form_eq_iff]
  constructor
  · exact CanonicalForm.eq_of_text_eq h.legible h'.legible
  · exact congrArg CanonicalForm.text

/-- A call that lists a bucket. -/
def listing (headers : List (String × String)) : SigningOrder :=
  { method := "GET", url := "https://s3.amazonaws.com:443/b?prefix=a%0Ab",
    headers := .ofList headers, digest := .unsigned, now := .ofSeconds 1709622489 }

theorem singleLined_listing {headers : List (String × String)}
    (h : ∀ e ∈ headers, ('\n' ∉ e.1.toList ∧ ':' ∉ e.1.toList) ∧ '\n' ∉ e.2.toList) :
    (listing headers).SingleLined := by
  have hmethod : '\n' ∉ "GET".toList := by decide
  have hurl : '\n' ∉ "https://s3.amazonaws.com:443/b?prefix=a%0Ab".toList := by decide
  have hdigest : '\n' ∉ PayloadDigest.unsigned.text.toList := by decide
  refine ⟨hmethod, hurl, ?_, ?_, hdigest⟩
  · intro e he
    exact (h e (Table.mem_of_mem_ofList he)).1
  · intro e he
    exact (h e (Table.mem_of_mem_ofList he)).2

/-- Two names and one with a semicolon in it give the same line of names, and yet the calls are told
apart.  Blanks at the ends of values tell no calls apart. -/
theorem canonicalText_listing :
    Signature.signedNames (listing [("a", "1"), ("b", "2")]).signed =
        Signature.signedNames (listing [("a;b", "1:2")]).signed ∧
      (listing [("a", "1"), ("b", "2")]).canonicalText ≠
        (listing [("a;b", "1:2")]).canonicalText ∧
      (listing [("a", " 1"), ("b", "2")]).canonicalText =
        (listing [("a", "1 "), ("b", "2")]).canonicalText := by
  refine ⟨by decide +kernel, ?_, ?_⟩
  · intro heq
    have hsame := (canonicalText_eq_iff (singleLined_listing (by decide +kernel))
      (singleLined_listing (by decide +kernel))).1 heq
    exact absurd hsame.headers (by decide +kernel)
  · refine (canonicalText_eq_iff (singleLined_listing (by decide +kernel))
      (singleLined_listing (by decide +kernel))).2 ⟨rfl, rfl, rfl, ?_, rfl⟩
    decide +kernel

end SigningOrder

end ObjectStore
