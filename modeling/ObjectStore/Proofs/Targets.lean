import ObjectStore.Proofs.Address
import ObjectStore.Proofs.Xml.Trim
/-!
# Targets and their URLs

A bucket stands in front of the host or at the beginning of the path.  Either way the URL is made
of the same parts (`Endpoint.toList_url_resolve`): a label and the host, what the endpoint says of
port and path, a segment and the key, and the query string.  Only the label is made of characters
of host names, and behind the host comes none of them, so a label cannot be mistaken for a part of
the host whatever the host is (`Text.eq_of_append_host`).

**Different targets have different URLs** (`Endpoint.url_resolve_eq_iff`).
-/

namespace ObjectStore

/-- What stands in front of a text that a foreign character follows can be told from it, if it is
made of own characters only. -/
theorem Text.eq_of_append_host {p : Char → Bool} {label label' host rest rest' : List Char}
    {c c' : Char} (hlabel : ∀ a ∈ label, p a = true) (hlabel' : ∀ a ∈ label', p a = true)
    (hc : p c = false) (hc' : p c' = false)
    (h : label ++ (host ++ c :: rest) = label' ++ (host ++ c' :: rest')) : label = label' := by
  have hhost : ∀ {c : Char} {rest : List Char}, p c = false →
      (host ++ c :: rest).takeWhile p = host.takeWhile p := by
    intro c rest hc
    rw [List.takeWhile_append, List.takeWhile_cons_of_neg (by simp [hc]), List.append_nil]
    split
    · next hall => exact ((List.takeWhile_prefix p).eq_of_length hall).symm
    · rfl
  -- the own characters at the beginning of both sides end with those of the host
  have htake := congrArg (List.takeWhile p) h
  rw [List.takeWhile_append_of_pos hlabel, List.takeWhile_append_of_pos hlabel', hhost hc,
    hhost hc'] at htake
  exact List.append_cancel_right htake

theorem Percent.encodeKey_injective {s t : String} (h : encodeKey s = encodeKey t) : s = t := by
  rw [encodeKey_eq, encodeKey_eq] at h
  exact encode_injective h

theorem Percent.slash_notMem_encodeByte (b : UInt8) : b ≠ 47 → '/' ∉ encodeByte .kept b := by
  revert b
  exact forall_byte (by decide +kernel)

/-- A key without slashes is written without slashes. -/
theorem Percent.slash_notMem_encodeKey {s : String} (h : '/' ∉ s.toList) :
    '/' ∉ (encodeKey s).toList := by
  rw [encodeKey_eq, encode, String.toList_ofList, List.mem_flatMap]
  rintro ⟨b, hb, hmem⟩
  refine slash_notMem_encodeByte b ?_ hmem
  rintro rfl
  exact h ((mem_utf8_iff (by decide) s).1 hb)

namespace Endpoint

variable {e : Endpoint} {b b' : String}

/-! ### The parts of a URL -/

/-- Whether the bucket stands in front of the host. -/
def hosts (e : Endpoint) (b : String) : Bool := !e.disableDnsBuckets && isHostBucket b

/-- What a bucket puts in front of the host. -/
def hostLabel (e : Endpoint) (b : String) : List Char :=
  if e.hosts b then b.toList ++ ['.'] else []

/-- What a bucket puts in front of the key. -/
def pathSegment (e : Endpoint) (b : String) : List Char :=
  if e.hosts b then [] else (Percent.encodeKey b).toList ++ ['/']

/-- What an endpoint puts between its host and the path of a bucket. -/
def afterHost (e : Endpoint) : List Char :=
  (if e.port = e.scheme.defaultPort then "" else ":" ++ toString e.port.toNat).toList ++
    (e.pathStart.toList ++ ['/'])

/-- What stands for the object in the path. -/
def keyPart (key : Option String) : List Char := (Percent.encodeKey (key.getD "")).toList

theorem keyPart_eq (key : Option String) :
    ((key.map Percent.encodeKey).getD "").toList = keyPart key := by
  cases key with
  | none => rfl
  | some key => rfl

theorem toList_url_resolve (e : Endpoint) (b : String) (key : Option String) (query : String) :
    ((e.resolve (some b) key).url query).toList =
      e.scheme.name.toList ++ ("://".toList ++ (e.hostLabel b ++ (e.host.toList ++
        (e.afterHost ++ (e.pathSegment b ++ (keyPart key ++ Address.queryPart query)))))) := by
  rw [Address.toList_url, ← keyPart_eq, hostLabel, pathSegment, afterHost, Address.authority]
  by_cases hhosts : e.hosts b = true
  · have hdns : (!e.disableDnsBuckets && isHostBucket b) = true := hhosts
    simp [resolve, hdns, hhosts]
  · have hdns : ¬(!e.disableDnsBuckets && isHostBucket b) = true := hhosts
    simp [resolve, hdns, hhosts]

theorem isHostChar_of_mem_hostLabel {c : Char} (h : c ∈ e.hostLabel b) : isHostChar c = true := by
  unfold hostLabel at h
  split at h
  · next hhosts =>
    rw [hosts, Bool.and_eq_true] at hhosts
    rcases List.mem_append.1 h with hmem | hdot
    · cases hc : isHostChar c with
      | true => rfl
      | false => exact absurd hmem (notMem_of_isHostBucket hhosts.2 hc)
    · rw [List.mem_singleton.1 hdot]
      rfl
  · cases h

/-- Behind the host comes a port or a path. -/
theorem exists_afterHost (e : Endpoint) : ∃ c rest, e.afterHost = c :: rest ∧
    isHostChar c = false := by
  unfold afterHost
  split
  · rcases hstart : e.pathStart.toList with _ | ⟨c, rest⟩
    · exact ⟨'/', [], rfl, rfl⟩
    · have hc : c = '/' := by
        unfold pathStart at hstart
        split at hstart
        · cases hstart
        · rw [String.toList_append] at hstart
          cases hstart
          rfl
      exact ⟨c, rest ++ ['/'], rfl, by rw [hc]; rfl⟩
  · rw [String.toList_append]
    exact ⟨':', _, rfl, rfl⟩

/-- A bucket is known by the label and the segment together. -/
theorem eq_of_hostLabel_of_pathSegment (hb : '/' ∉ b.toList) (hb' : '/' ∉ b'.toList)
    (hlabel : e.hostLabel b = e.hostLabel b') {rest rest' : List Char}
    (hsegment : e.pathSegment b ++ rest = e.pathSegment b' ++ rest') : b = b' := by
  unfold hostLabel at hlabel
  unfold pathSegment at hsegment
  by_cases hhosts : e.hosts b = true
  · by_cases hhosts' : e.hosts b' = true
    · rw [if_pos hhosts, if_pos hhosts'] at hlabel
      exact String.toList_inj.1 (List.append_cancel_right hlabel)
    · rw [if_pos hhosts, if_neg hhosts'] at hlabel
      exact absurd hlabel (by simp)
  · by_cases hhosts' : e.hosts b' = true
    · rw [if_neg hhosts, if_pos hhosts'] at hlabel
      exact absurd hlabel (by simp)
    · rw [if_neg hhosts, if_neg hhosts', List.append_assoc, List.append_assoc,
        List.singleton_append, List.singleton_append] at hsegment
      have hcut := congrArg (Text.cut '/') hsegment
      rw [Text.cut_append_sep (Percent.slash_notMem_encodeKey hb),
        Text.cut_append_sep (Percent.slash_notMem_encodeKey hb')] at hcut
      exact Percent.encodeKey_injective (String.toList_inj.1 (Prod.mk.inj hcut).1)

/-- The key and the query string are known by what stands behind the bucket. -/
theorem eq_of_keyPart_of_queryPart {key key' : Option String} {query query' : String}
    (h : keyPart key ++ Address.queryPart query = keyPart key' ++ Address.queryPart query') :
    key.getD "" = key'.getD "" ∧ query = query' := by
  obtain ⟨hkey, hquery⟩ := Address.cut_queryPart (notMem_encodeKey (key.getD "")) query
  obtain ⟨hkey', hquery'⟩ := Address.cut_queryPart (notMem_encodeKey (key'.getD "")) query'
  rw [keyPart, keyPart] at h
  rw [h, hkey'] at hkey
  rw [h, hquery'] at hquery
  exact ⟨Percent.encodeKey_injective (String.toList_inj.1 hkey.symm),
    String.toList_inj.1 hquery.symm⟩

/-- **Different targets have different URLs:** a URL is that of one bucket, one key and one query
string only, whatever the endpoint and however the buckets are addressed. -/
theorem url_resolve_eq_iff (e : Endpoint) (hb : '/' ∉ b.toList) (hb' : '/' ∉ b'.toList)
    (key key' : Option String) (query query' : String) :
    (e.resolve (some b) key).url query = (e.resolve (some b') key').url query' ↔
      b = b' ∧ key.getD "" = key'.getD "" ∧ query = query' := by
  constructor
  · intro h
    have hlist := congrArg String.toList h
    rw [toList_url_resolve, toList_url_resolve] at hlist
    have hparts := List.append_cancel_left (List.append_cancel_left hlist)
    obtain ⟨c, rest, hafter, hc⟩ := exists_afterHost e
    have hlabel : e.hostLabel b = e.hostLabel b' := by
      rw [hafter] at hparts
      exact Text.eq_of_append_host (fun _ => isHostChar_of_mem_hostLabel)
        (fun _ => isHostChar_of_mem_hostLabel) hc hc hparts
    rw [hlabel] at hparts
    have hobject := List.append_cancel_left (List.append_cancel_left
      (List.append_cancel_left hparts))
    obtain rfl := eq_of_hostLabel_of_pathSegment hb hb' hlabel hobject
    exact ⟨rfl, eq_of_keyPart_of_queryPart (List.append_cancel_left hobject)⟩
  · rintro ⟨rfl, hkey, rfl⟩
    apply String.toList_inj.1
    rw [toList_url_resolve, toList_url_resolve, keyPart, keyPart, hkey]

/-- A bucket in front of the host, which repeats it, and one in the path; and a question mark that
belongs to a key. -/
theorem url_resolve_ne_of_repeated_label :
    '/' ∉ "logs".toList ∧ '/' ∉ "Logs".toList ∧
      (resolve { host := "logs.logs.example", httpsPort := 8443 } (some "logs") (some "a?b")).url
        "" ≠
      (resolve { host := "logs.logs.example", httpsPort := 8443 } (some "Logs") (some "a")).url
        "b" := by
  refine ⟨by decide, by decide, fun h => ?_⟩
  obtain ⟨hbucket, _⟩ := (url_resolve_eq_iff _ (by decide) (by decide) _ _ _ _).1 h
  exact absurd hbucket (by decide)

end Endpoint

end ObjectStore
