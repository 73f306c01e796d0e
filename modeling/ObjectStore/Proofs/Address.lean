import Mathlib.Data.List.TakeDrop
import ObjectStore.Endpoint
import ObjectStore.Proofs.Percent
import ObjectStore.Signature
/-!
# Reading a URL

`UrlView.ofUrl` reads a URL as its receiver does, who does not know what it was made of.  An
address that is resolved from an endpoint can be read off its URL again, and a signature sees
the same host, path and query string (`Address.ofUrl_url`, `Address.urlParts_url`).
-/

namespace ObjectStore

/-- What a receiver reads off a URL. -/
structure UrlView where
  scheme : String
  authority : String
  path : String
  query : String

namespace UrlView

/-- The scheme, then what stands before the first question mark, and there the authority up to
the first slash. -/
def ofUrl (url : String) : UrlView :=
  let (scheme, rest) := (Text.cutMark? "://".toList url.toList).getD ([], url.toList)
  let (target, query) := Text.cut '?' rest
  let (authority, path) := Text.cut '/' target
  { scheme := String.ofList scheme, authority := String.ofList authority,
    path := String.ofList ('/' :: path.getD []), query := String.ofList (query.getD []) }

/-- The authority without the port that the scheme implies. -/
def host (v : UrlView) : String :=
  (Text.beforeEnd? (if v.scheme = "https" then ":443" else ":80") v.authority).getD v.authority

end UrlView

theorem Text.notMem_toDigits {c : Char} (h : c.isDigit = false) (n : Nat) :
    c ∉ Nat.toDigits 10 n := by
  intro hc
  rw [Nat.isDigit_of_mem_toDigits (by decide) (by decide) hc] at h
  cases h

namespace Address

/-- The host with the port, if that is named. -/
def authority (a : Address) : String :=
  a.host ++ if a.port = a.scheme.defaultPort then "" else ":" ++ toString a.port.toNat

/-- Host and path are free of the separators that stand behind them. -/
structure Readable (a : Address) : Prop where
  host : '/' ∉ a.host.toList ∧ '?' ∉ a.host.toList
  path : ∃ tail, a.path.toList = '/' :: tail ∧ '?' ∉ tail

variable {a : Address}

theorem notMem_authority {c : Char} (hc : c.isDigit = false) (hcolon : c ≠ ':')
    (h : c ∉ a.host.toList) : c ∉ a.authority.toList := by
  rw [authority, String.toList_append, List.mem_append, not_or]
  refine ⟨h, ?_⟩
  split
  · simp
  · rw [String.toList_append, List.mem_append, not_or]
    constructor
    · simpa using hcolon
    · rw [Nat.toString_eq_repr, Nat.toList_repr]
      exact Text.notMem_toDigits hc _

/-- How a query string follows the path of a URL. -/
def queryPart (query : String) : List Char := if query.isEmpty then [] else '?' :: query.toList

theorem toList_url (a : Address) (query : String) :
    (a.url query).toList = a.scheme.name.toList ++ ("://".toList ++
      (a.authority.toList ++ a.path.toList ++ queryPart query)) := by
  have hquery : (if query.isEmpty then "" else "?" ++ query).toList = queryPart query := by
    unfold queryPart
    split
    · rfl
    · rw [String.toList_append]
      rfl
  simp only [url, authority, String.toList_append, List.append_assoc, hquery]

theorem cut_queryPart {before : List Char} (h : '?' ∉ before) (query : String) :
    (Text.cut '?' (before ++ queryPart query)).1 = before ∧
      (Text.cut '?' (before ++ queryPart query)).2.getD [] = query.toList := by
  unfold queryPart
  split
  · next hempty =>
    have hquery : query = "" := by simpa using hempty
    rw [List.append_nil, Text.cut_eq_of_notMem h, hquery]
    exact ⟨rfl, rfl⟩
  · rw [Text.cut_append_sep h]
    exact ⟨rfl, rfl⟩

/-- A URL says which query string it was made with. -/
theorem eq_of_url_eq {query query' : String} (h : a.url query = a.url query') :
    query = query' := by
  have hnone : '?' ∉ ([] : List Char) := List.not_mem_nil
  have hpart := congrArg String.toList h
  rw [toList_url, toList_url, List.append_cancel_left_eq, List.append_cancel_left_eq,
    List.append_cancel_left_eq] at hpart
  have hquery := (cut_queryPart hnone query).2
  rw [hpart, (cut_queryPart hnone query').2] at hquery
  exact String.toList_inj.1 hquery.symm

theorem cutMark?_scheme (s : Scheme) (rest : List Char) :
    Text.cutMark? "://".toList (s.name.toList ++ ("://".toList ++ rest)) =
      some (s.name.toList, rest) := by
  cases s <;> rfl

/-- The receiver reads what the address says. -/
theorem ofUrl_url (h : a.Readable) (query : String) :
    UrlView.ofUrl (a.url query) = ⟨a.scheme.name, a.authority, a.path, query⟩ := by
  obtain ⟨tail, hpath, htail⟩ := h.path
  have hslash := notMem_authority (by decide) (by decide) h.host.1
  have htarget : '?' ∉ a.authority.toList ++ a.path.toList := by
    have hmark := notMem_authority (by decide) (by decide) h.host.2
    rw [hpath]
    simp [hmark, htail]
  obtain ⟨hbefore, hquery⟩ := cut_queryPart htarget query
  simp only [UrlView.ofUrl, toList_url, cutMark?_scheme, Option.getD_some, hbefore, hquery]
  rw [hpath, Text.cut_append_sep hslash]
  simp only [String.ofList_toList, Option.getD_some, ← hpath]

theorem withoutScheme_url (a : Address) (query : String) :
    Signature.withoutScheme (a.url query) =
      String.ofList (a.authority.toList ++ a.path.toList ++ queryPart query) := by
  rw [Signature.withoutScheme, Text.afterStart?, Text.afterStart?, toList_url]
  rcases a.scheme with _ | _
  · have hhttps : "https://".toList.isPrefixOf? (Scheme.http.name.toList ++ ("://".toList ++
        (a.authority.toList ++ a.path.toList ++ queryPart query))) = none := rfl
    rw [hhttps, Text.isPrefixOf?_eq_some_iff.2 (by rw [← List.append_assoc]; rfl)]
    rfl
  · rw [Text.isPrefixOf?_eq_some_iff.2 (by rw [← List.append_assoc]; rfl)]
    rfl

theorem hostOf_url (a : Address) (query : String) :
    Signature.hostOf (a.url query) a.authority =
      UrlView.host ⟨a.scheme.name, a.authority, a.path, query⟩ := by
  rw [Signature.hostOf, UrlView.host, Text.afterStart?, toList_url]
  rcases a.scheme with _ | _
  · rfl
  · rfl

/-- A signature sees the same path and query string, and the host that the receiver makes of
the authority. -/
theorem urlParts_url (h : a.Readable) (query : String) :
    Signature.urlParts (a.url query) =
      ⟨(UrlView.ofUrl (a.url query)).host, a.path, query⟩ := by
  obtain ⟨tail, hpath, htail⟩ := h.path
  have hslash := notMem_authority (by decide) (by decide) h.host.1
  have hauthority : ∀ c ∈ a.authority.toList, decide (c ≠ '/') = true := by
    intro c hc
    apply decide_eq_true
    rintro rfl
    exact hslash hc
  have hspan : (Signature.withoutScheme (a.url query)).toList.span (· ≠ '/') =
      (a.authority.toList, a.path.toList ++ queryPart query) := by
    rw [withoutScheme_url, String.toList_ofList, List.append_assoc, hpath,
      List.span_eq_takeWhile_dropWhile, List.takeWhile_append_of_pos hauthority,
      List.dropWhile_append_of_pos hauthority]
    simp
  have hpathMark : '?' ∉ a.path.toList := by simp [hpath, htail]
  obtain ⟨hbefore, hquery⟩ := cut_queryPart hpathMark query
  have hempty : (a.path.toList ++ queryPart query).isEmpty = false := by rw [hpath]; rfl
  simp only [Signature.urlParts, hspan, hempty, Bool.false_eq_true, if_false, hbefore, hquery,
    String.ofList_toList, hostOf_url, ofUrl_url h]

end Address

/-! ### Resolved addresses -/

theorem Text.mem_of_mem_trimEnd {α : Type} {p : α → Bool} {l : List α} {a : α}
    (h : a ∈ trimEnd p l) : a ∈ l := by
  induction l with
  | nil => exact h
  | cons b l ih =>
    rw [trimEnd] at h
    split at h
    · split at h
      · cases h
      · rw [List.mem_singleton.1 h]
        exact List.mem_cons_self
    · rcases List.mem_cons.1 h with rfl | hmem
      · exact List.mem_cons_self
      · exact List.mem_cons_of_mem _ (ih hmem)

theorem Text.mem_of_mem_trimBoth {α : Type} {p : α → Bool} {l : List α} {a : α}
    (h : a ∈ trimBoth p l) : a ∈ l :=
  (List.dropWhile_sublist p).subset (mem_of_mem_trimEnd h)

theorem notMem_of_isHostBucket {name : String} (h : isHostBucket name = true) {c : Char}
    (hc : isHostChar c = false) : c ∉ name.toList := by
  intro hmem
  simp only [isHostBucket, Bool.and_eq_true, List.all_eq_true] at h
  rw [h.1.1.2 c hmem] at hc
  cases hc

theorem notMem_encodeKey (key : String) : '?' ∉ (Percent.encodeKey key).toList := by
  rw [Percent.encodeKey_eq]
  exact Percent.notMem_encode (by decide) key

namespace Endpoint

variable {e : Endpoint}

/-- The virtual path is empty or begins with a slash. -/
theorem pathStart_cases (h : '?' ∉ e.virtualPath.toList) :
    e.pathStart = "" ∨ ∃ tail, e.pathStart.toList = '/' :: tail ∧ '?' ∉ tail := by
  unfold pathStart
  split
  · exact .inl rfl
  · next cs hcs =>
    refine .inr ⟨Text.trimBoth (· = '/') e.virtualPath.toList, ?_, ?_⟩
    · simp
    · exact fun hmem => h (Text.mem_of_mem_trimBoth hmem)

theorem exists_path (h : '?' ∉ e.virtualPath.toList) {rest : String} (hrest : '?' ∉ rest.toList) :
    ∃ tail, (e.pathStart ++ "/" ++ rest).toList = '/' :: tail ∧ '?' ∉ tail := by
  rcases pathStart_cases h with hempty | ⟨tail, hstart, htail⟩
  · exact ⟨rest.toList, by simp [hempty], hrest⟩
  · refine ⟨tail ++ '/' :: rest.toList, by simp [hstart], ?_⟩
    simp [htail, hrest]

/-- Nothing but characters of host names comes in front of the host. -/
theorem exists_host (e : Endpoint) (bucket key : Option String) :
    ∃ label, (e.resolve bucket key).host = label ++ e.host ∧
      ∀ c, isHostChar c = false → c ∉ label.toList := by
  rcases bucket with _ | b
  · exact ⟨"", String.empty_append.symm, by simp⟩
  · by_cases hdns : (!e.disableDnsBuckets && isHostBucket b) = true
    · have hbucket : isHostBucket b = true := by
        rw [Bool.and_eq_true] at hdns
        exact hdns.2
      refine ⟨b ++ ".", by simp only [resolve, hdns, if_true], ?_⟩
      intro c hc
      have hdot : c ≠ '.' := by
        rintro rfl
        cases hc
      simp [notMem_of_isHostBucket hbucket hc, hdot]
    · refine ⟨"", ?_, by simp⟩
      simp [resolve, hdns]

/-- Behind the virtual path comes the written form of a text. -/
theorem exists_path_eq (e : Endpoint) (bucket key : Option String) :
    ∃ text, (e.resolve bucket key).path = e.pathStart ++ "/" ++ Percent.encode .kept text := by
  have hslash : Percent.encode .kept "/" = "/" := by decide
  have hkey : (key.map Percent.encodeKey).getD "" = Percent.encode .kept (key.getD "") := by
    cases key with
    | none => rfl
    | some key => exact Percent.encodeKey_eq key
  rcases bucket with _ | b
  · exact ⟨"", String.append_empty.symm⟩
  · by_cases hdns : (!e.disableDnsBuckets && isHostBucket b) = true
    · refine ⟨key.getD "", ?_⟩
      simp only [resolve, hdns, if_true, hkey]
    · refine ⟨b ++ "/" ++ key.getD "", ?_⟩
      rw [Percent.encode_append, Percent.encode_append, hslash, ← Percent.encodeKey_eq b, ← hkey]
      simp [resolve, hdns, String.append_assoc]

/-- **What an endpoint resolves to can be read off a URL.** -/
theorem readable_resolve (hhost : '/' ∉ e.host.toList ∧ '?' ∉ e.host.toList)
    (hpath : '?' ∉ e.virtualPath.toList) (bucket key : Option String) :
    (e.resolve bucket key).Readable := by
  obtain ⟨label, hlabel, hchars⟩ := exists_host e bucket key
  obtain ⟨text, htext⟩ := exists_path_eq e bucket key
  have hslash := hchars '/' (by decide)
  have hmark := hchars '?' (by decide)
  constructor
  · rw [hlabel, String.toList_append]
    simp [hslash, hmark, hhost.1, hhost.2]
  · rw [htext]
    exact exists_path hpath (Percent.notMem_encode (by decide) text)

end Endpoint

end ObjectStore
