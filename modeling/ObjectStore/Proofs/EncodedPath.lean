import ObjectStore.Proofs.Address
import ObjectStore.Proofs.Xml.Trim
/-!
# Paths that are signed as they are

A signature takes the path as it stands in the URL, while the receiver brings it into a form of its
own: it replaces the escapes and encodes the bytes again (`Percent.recoded`).  Nothing goes wrong
with an address that is `Address.Signable`: its path is encoded already, in the receiver's form, and
ends where the query string begins.

Buckets and keys are encoded on their way into an address, but a virtual path only loses the slashes
at its two ends.  So **an address is signable just if the virtual path is given in the receiver's
form** and the host has none of the characters that end it (`Endpoint.signable_resolve_iff`);
neither the bucket nor the key matters.
-/

namespace ObjectStore

namespace Percent

/-- What a receiver makes of a path: escapes are replaced and all is encoded again. -/
def recoded (path : List Char) : List Char :=
  (decodeBytes (path.flatMap String.utf8EncodeChar)).flatMap (encodeByte .kept)

def isUpperHex (c : Char) : Bool := c.isDigit || ('A' ≤ c && c ≤ 'F')

/-- Whether there is nothing but slashes, unreserved characters and escapes in upper case. -/
def isEncoded : List Char → Bool
  | [] => true
  | '%' :: high :: low :: rest => isUpperHex high && isUpperHex low && isEncoded rest
  | c :: rest => c.toNat < 128 && isLiteral .kept c.toNat.toUInt8 && isEncoded rest

/-! ### Slashes -/

/-- A percent sign stands for itself where two digits do not follow. -/
theorem decodeBytes_percent {s : Bytes}
    (h : ∀ a b rest, s = a :: b :: rest → hexValue? a = none ∨ hexValue? b = none) :
    decodeBytes (37 :: s) = 37 :: decodeBytes s := by
  rcases s with _ | ⟨a, _ | ⟨b, rest⟩⟩
  · simp [decodeBytes]
  · simp [decodeBytes]
  · rw [decodeBytes]
    rcases h a b rest rfl with ha | hb
    · rw [ha]
    · rw [hb]
      cases hexValue? a with
      | none => rfl
      | some high => rfl

/-- No escape goes across a slash. -/
theorem decodeBytes_append_slash (s t : Bytes) :
    decodeBytes (s ++ 47 :: t) = decodeBytes s ++ 47 :: decodeBytes t := by
  have hslash : hexValue? 47 = none := by decide
  have hrest : decodeBytes (47 :: t) = 47 :: decodeBytes t := decodeBytes_cons_of_ne (by decide) t
  fun_induction decodeBytes s with
  | case1 a b s high low hlow hhigh ih =>
    simp only [List.cons_append, decodeBytes, hhigh, hlow, ih]
  | case2 a b s hnot ih =>
    rw [List.cons_append, decodeBytes_percent, ih, List.cons_append]
    rintro a' b' rest heq
    obtain ⟨rfl, htail⟩ := List.cons.inj heq
    obtain ⟨rfl, -⟩ := List.cons.inj htail
    cases ha : hexValue? a with
    | none => exact .inl rfl
    | some high =>
      cases hb : hexValue? b with
      | none => exact .inr rfl
      | some low => exact (hnot high low ha hb).elim
  | case3 b s hshort ih =>
    by_cases hb : b = 37
    · subst hb
      rw [List.cons_append, decodeBytes_percent, ih, List.cons_append]
      rintro a' b' rest heq
      -- what follows the sign is too short for an escape, so the slash is one of the two
      rcases s with _ | ⟨a, _ | ⟨c, s⟩⟩
      · obtain ⟨rfl, -⟩ := List.cons.inj heq
        exact .inl hslash
      · obtain ⟨-, htail⟩ := List.cons.inj heq
        obtain ⟨rfl, -⟩ := List.cons.inj htail
        exact .inr hslash
      · exact (hshort a c s rfl rfl).elim
    · rw [List.cons_append, decodeBytes_cons_of_ne hb, ih, List.cons_append]
  | case4 => exact hrest

theorem recoded_append_slash (l r : List Char) :
    recoded (l ++ '/' :: r) = recoded l ++ '/' :: recoded r := by
  have hslash : String.utf8EncodeChar '/' = [47] := by decide
  have hbyte : encodeByte .kept 47 = ['/'] := by decide
  rw [recoded, List.flatMap_append, List.flatMap_cons, hslash, List.singleton_append,
    decodeBytes_append_slash, List.flatMap_append, List.flatMap_cons, hbyte]
  rfl

theorem recoded_cons_slash (l : List Char) : recoded ('/' :: l) = '/' :: recoded l :=
  recoded_append_slash [] l

theorem recoded_append_of_slashes {front : List Char} (h : ∀ c ∈ front, c = '/') (l : List Char) :
    recoded (front ++ l) = front ++ recoded l := by
  induction front with
  | nil => rfl
  | cons c front ih =>
    rw [List.forall_mem_cons] at h
    obtain ⟨rfl, hfront⟩ := h
    rw [List.cons_append, recoded_cons_slash, ih hfront, List.cons_append]

theorem recoded_slashes_append {back : List Char} (h : ∀ c ∈ back, c = '/') (l : List Char) :
    recoded (l ++ back) = recoded l ++ back := by
  cases back with
  | nil => rw [List.append_nil, List.append_nil]
  | cons c back =>
    rw [List.forall_mem_cons] at h
    obtain ⟨rfl, hback⟩ := h
    have hrest := recoded_append_of_slashes hback []
    rw [List.append_nil] at hrest
    rw [recoded_append_slash, hrest]
    exact congrArg (recoded l ++ '/' :: ·) (List.append_nil back)

/-! ### The receiver's form -/

theorem recoded_encode (text : String) :
    recoded (encode .kept text).toList = (encode .kept text).toList := by
  rw [recoded, ← utf8_eq, decodeBytes_encode, encode, String.toList_ofList]

theorem notMem_recoded {c : Char} (h : isCode .kept c = false) (path : List Char) :
    c ∉ recoded path := by
  rw [recoded, List.mem_flatMap]
  rintro ⟨b, -, hc⟩
  have hcode := List.all_eq_true.1 (all_isCode_encodeByte .kept b) c hc
  rw [h] at hcode
  cases hcode

theorem isEncoded_encodeByte_append (b : UInt8) (rest : List Char) :
    isEncoded (encodeByte .kept b ++ rest) = isEncoded rest := by
  have hhex : isUpperHex (upperHexDigit (b >>> 4)) = true ∧
      isUpperHex (upperHexDigit (b &&& 15)) = true := by
    revert b
    exact forall_byte (by decide +kernel)
  have hliteral : isLiteral .kept b = true → Char.ofNat b.toNat ≠ '%' ∧
      (Char.ofNat b.toNat).toNat < 128 ∧ (Char.ofNat b.toNat).toNat.toUInt8 = b := by
    revert b
    exact forall_byte (by decide +kernel)
  unfold encodeByte
  split
  · next h =>
    obtain ⟨hne, hlt, hback⟩ := hliteral h
    rw [List.singleton_append, isEncoded]
    · rw [hback, h, decide_eq_true hlt, Bool.and_true, Bool.true_and]
    · intro high low rest' heq
      exact absurd heq hne
  · rw [List.cons_append, List.cons_append, List.cons_append, List.nil_append, isEncoded, hhex.1,
      hhex.2, Bool.and_true, Bool.true_and]

/-- A receiver's form is encoded. -/
theorem isEncoded_recoded (path : List Char) : isEncoded (recoded path) = true := by
  rw [recoded]
  induction decodeBytes (path.flatMap String.utf8EncodeChar) with
  | nil => rfl
  | cons b bytes ih => rw [List.flatMap_cons, isEncoded_encodeByte_append, ih]

end Percent

namespace Address

/-- What a signature takes for granted of an address. -/
structure Signable (a : Address) : Prop where
  rooted : a.path.toList.head? = some '/'
  encoded : Percent.isEncoded a.path.toList = true
  /-- The path is what is signed, what is received, and the receiver's form of it. -/
  signed : ∀ query, (Signature.urlParts (a.url query)).path = a.path
  received : ∀ query, (UrlView.ofUrl (a.url query)).path = a.path
  recoded : Percent.recoded a.path.toList = a.path.toList
  /-- The first question mark of the URL is the one in front of the query string. -/
  mark : ∀ query, Text.cut '?' (a.url query).toList =
    ((a.url "").toList, if query.isEmpty then none else some query.toList)

variable {a : Address}

theorem Readable.mark (h : a.Readable) (query : String) :
    Text.cut '?' (a.url query).toList =
      ((a.url "").toList, if query.isEmpty then none else some query.toList) := by
  obtain ⟨tail, hpath, htail⟩ := h.path
  have hscheme : '?' ∉ a.scheme.name.toList := by
    cases a.scheme with
    | http => decide
    | https => decide
  have hauthority := notMem_authority (by decide) (by decide) h.host.2
  have hurl : '?' ∉ (a.url "").toList := by
    rw [toList_url, hpath]
    simp [queryPart, hscheme, hauthority, htail]
  have hquery : (a.url query).toList = (a.url "").toList ++ queryPart query := by
    rw [toList_url, toList_url]
    simp [queryPart]
  rw [hquery, queryPart]
  split
  · rw [List.append_nil, Text.cut_eq_of_notMem hurl]
  · rw [Text.cut_append_sep hurl]

theorem Signable.notMem_url (h : a.Signable) : '?' ∉ (a.url "").toList := by
  have hcut := h.mark ""
  have hfst := Text.notMem_fst_cut '?' (a.url "").toList
  rw [hcut] at hfst
  exact hfst

/-- A slash in the authority would be taken for the beginning of the path. -/
theorem Signable.notMem_authority (h : a.Signable) : '/' ∉ a.authority.toList := by
  have htarget : '?' ∉ a.authority.toList ++ a.path.toList := by
    have hurl := h.notMem_url
    rw [toList_url] at hurl
    intro hmem
    exact hurl (List.mem_append_right _ (List.mem_append_right _ (List.mem_append_left _ hmem)))
  have hroot : '/' ∈ a.path.toList := List.mem_of_mem_head? h.rooted
  have hquery : queryPart "" = [] := rfl
  have hreceived := congrArg String.toList (h.received "")
  simp only [UrlView.ofUrl, toList_url, cutMark?_scheme, Option.getD_some, hquery,
    List.append_nil, Text.cut_eq_of_notMem htarget, String.toList_ofList] at hreceived
  have hbefore := Text.notMem_fst_cut '/' (a.authority.toList ++ a.path.toList)
  rcases hcut : Text.cut '/' (a.authority.toList ++ a.path.toList) with ⟨before, _ | after⟩
  · rw [hcut] at hbefore
    have heq := Text.eq_of_cut hcut
    rw [heq] at hbefore
    exact absurd (List.mem_append_right _ hroot) hbefore
  · have happend := Text.append_of_cut hcut
    rw [hcut] at hreceived hbefore
    rw [Option.getD_some] at hreceived
    rw [hreceived] at happend
    rw [← List.append_cancel_right happend]
    exact hbefore

end Address

namespace Endpoint

variable {e : Endpoint}

theorem toList_path_resolve (e : Endpoint) (bucket key : Option String) :
    ∃ text, (e.resolve bucket key).path.toList =
      e.pathStart.toList ++ '/' :: (Percent.encode .kept text).toList := by
  obtain ⟨text, hpath⟩ := exists_path_eq e bucket key
  refine ⟨text, ?_⟩
  rw [hpath]
  simp

/-- Every path begins with a slash, with or without a virtual path. -/
theorem head?_path_resolve (e : Endpoint) (bucket key : Option String) :
    (e.resolve bucket key).path.toList.head? = some '/' := by
  obtain ⟨text, hpath⟩ := toList_path_resolve e bucket key
  rw [hpath, pathStart]
  split
  · rfl
  · simp

theorem recoded_pathStart_iff : Percent.recoded e.pathStart.toList = e.pathStart.toList ↔
    Percent.recoded e.virtualPath.toList = e.virtualPath.toList := by
  obtain ⟨front, back, hfront, hback, hpath⟩ :=
    Text.exists_trimBoth (· = '/') e.virtualPath.toList
  simp only [decide_eq_true_eq] at hfront hback
  have hvirtual : Percent.recoded e.virtualPath.toList = e.virtualPath.toList ↔
      Percent.recoded (Text.trimBoth (· = '/') e.virtualPath.toList) =
        Text.trimBoth (· = '/') e.virtualPath.toList := by
    conv_lhs => rw [hpath]
    rw [Percent.recoded_append_of_slashes hfront, Percent.recoded_slashes_append hback,
      List.append_cancel_left_eq, List.append_cancel_right_eq]
  rw [hvirtual, pathStart]
  split
  · next hnil =>
    rw [hnil]
    exact Iff.rfl
  · have hchars : ∀ l : List Char, ("/" ++ String.ofList l).toList = '/' :: l := by simp
    rw [hchars, Percent.recoded_cons_slash]
    exact List.cons_inj_right '/'

/-- **An address is signable just if the virtual path is given as it is to be sent**, whatever the
bucket and the key. -/
theorem signable_resolve_iff (e : Endpoint) (bucket key : Option String) :
    (e.resolve bucket key).path.toList.head? = some '/' ∧
      ((e.resolve bucket key).Signable ↔
        ('/' ∉ e.host.toList ∧ '?' ∉ e.host.toList) ∧
          Percent.recoded e.virtualPath.toList = e.virtualPath.toList) := by
  obtain ⟨text, hpath⟩ := toList_path_resolve e bucket key
  have hrecoded : Percent.recoded (e.resolve bucket key).path.toList =
      (e.resolve bucket key).path.toList ↔
        Percent.recoded e.virtualPath.toList = e.virtualPath.toList := by
    rw [← recoded_pathStart_iff, hpath, Percent.recoded_append_slash, Percent.recoded_encode,
      List.append_cancel_right_eq]
  refine ⟨head?_path_resolve e bucket key, ?_⟩
  constructor
  · intro h
    obtain ⟨label, hhost, -⟩ := exists_host e bucket key
    have hmem : ∀ c, c ∈ e.host.toList → c ∈ (e.resolve bucket key).authority.toList := by
      intro c hc
      simp [Address.authority, hhost, hc]
    refine ⟨⟨fun hslash => ?_, fun hmark => ?_⟩, hrecoded.1 h.recoded⟩
    · exact h.notMem_authority (hmem '/' hslash)
    · apply h.notMem_url
      rw [Address.toList_url]
      simp [hmem '?' hmark]
  · rintro ⟨hhost, hvirtual⟩
    have hmark : '?' ∉ e.virtualPath.toList := by
      rw [← hvirtual]
      exact Percent.notMem_recoded (by decide) _
    have ha := readable_resolve hhost hmark bucket key
    have hself := hrecoded.2 hvirtual
    constructor
    · exact head?_path_resolve e bucket key
    · rw [← hself]
      exact Percent.isEncoded_recoded _
    · intro query
      rw [Address.urlParts_url ha]
    · intro query
      rw [Address.ofUrl_url ha]
    · exact hself
    · exact ha.mark

/-- A blank in the virtual path is sent and signed as it is. -/
theorem not_signable_of_blank :
    ¬(resolve { virtualPath := "a b", disableDnsBuckets := true } (some "b")
      (some "k")).Signable := by
  intro h
  exact absurd h.encoded (by decide +kernel)

end Endpoint

end ObjectStore
