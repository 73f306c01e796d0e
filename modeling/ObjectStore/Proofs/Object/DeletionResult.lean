import Mathlib.Data.List.Forall2
import ObjectStore.Object.Deletion
import ObjectStore.Proofs.Listing.PageItems
/-!
# What became of a deletion

An answer names the objects that were deleted and those that were not, one after the other and in
any order.  The elements of both have names in common, and the reader keeps one entry of each kind
at a time; only where an element began tells to which of them a key or a version belongs.  An entry
begins with nothing known of it and is added to its own list when its element ends, and then
nothing of it is remembered (`foldlM_item`).

**Every entry comes to its own list** (`DeletionResult.sorts_of_strewn`): in the order of the
document, with its own texts, and none of them is lost or counted twice.
-/

namespace ObjectStore

open Listing Xml

/-! ### What an answer shows -/

/-- An element of an object that was deleted. -/
inductive DeletedField where
  | key (text : String)
  | versionId (text : String)
  | deleteMarker (marker : Bool)
  | deleteMarkerVersionId (text : String)

namespace DeletedField

def element : DeletedField → Element
  | key text => .text "Key" text
  | versionId text => .text "VersionId" text
  | deleteMarker marker => .text "DeleteMarker" (toString marker)
  | deleteMarkerVersionId text => .text "DeleteMarkerVersionId" text

def key? : DeletedField → Option String
  | key text => some (trimmed text)
  | _ => none

def versionId? : DeletedField → Option String
  | versionId text => some (trimmed text)
  | _ => none

def deleteMarker? : DeletedField → Option Bool
  | deleteMarker marker => some marker
  | _ => none

def deleteMarkerVersionId? : DeletedField → Option String
  | deleteMarkerVersionId text => some (trimmed text)
  | _ => none

end DeletedField

/-- An element of an object that was not deleted. -/
inductive ErrorField where
  | key (text : String)
  | versionId (text : String)
  | code (text : String)
  | message (text : String)

namespace ErrorField

def element : ErrorField → Element
  | key text => .text "Key" text
  | versionId text => .text "VersionId" text
  | code text => .text "Code" text
  | message text => .text "Message" text

def key? : ErrorField → Option String
  | key text => some (trimmed text)
  | _ => none

def versionId? : ErrorField → Option String
  | versionId text => some (trimmed text)
  | _ => none

def code? : ErrorField → Option String
  | code text => some (trimmed text)
  | _ => none

def message? : ErrorField → Option String
  | message text => some (trimmed text)
  | _ => none

end ErrorField

namespace DeletedObject

/-- The object, but for what the fields say. -/
def showing (d : DeletedObject) (fields : List DeletedField) : DeletedObject :=
  { key := (lastOf DeletedField.key? fields).getD d.key
    versionId := (lastOf DeletedField.versionId? fields).or d.versionId
    deleteMarker := (lastOf DeletedField.deleteMarker? fields).or d.deleteMarker
    deleteMarkerVersionId :=
      (lastOf DeletedField.deleteMarkerVersionId? fields).or d.deleteMarkerVersionId }

theorem showing_cons (d : DeletedObject) (field : DeletedField) (fields : List DeletedField) :
    (d.showing [field]).showing fields = d.showing (field :: fields) := by
  simp only [showing, lastOf_cons, lastOf_nil, Option.none_or, Option.getD_or, Option.or_assoc]

/-- What says all of the object, each thing once. -/
def fields (d : DeletedObject) : List DeletedField :=
  .key d.key :: ((d.versionId.map .versionId).toList ++
    ((d.deleteMarker.map .deleteMarker).toList ++
      (d.deleteMarkerVersionId.map .deleteMarkerVersionId).toList))

/-- The object as it is read. -/
def trimmed (d : DeletedObject) : DeletedObject :=
  { key := Xml.trimmed d.key
    versionId := d.versionId.map Xml.trimmed
    deleteMarker := d.deleteMarker
    deleteMarkerVersionId := d.deleteMarkerVersionId.map Xml.trimmed }

end DeletedObject

namespace DeletionError

/-- The error, but for what the fields say. -/
def showing (e : DeletionError) (fields : List ErrorField) : DeletionError :=
  { key := (lastOf ErrorField.key? fields).getD e.key
    versionId := (lastOf ErrorField.versionId? fields).or e.versionId
    code := (lastOf ErrorField.code? fields).getD e.code
    message := (lastOf ErrorField.message? fields).getD e.message }

theorem showing_cons (e : DeletionError) (field : ErrorField) (fields : List ErrorField) :
    (e.showing [field]).showing fields = e.showing (field :: fields) := by
  simp only [showing, lastOf_cons, lastOf_nil, Option.none_or, Option.getD_or, Option.or_assoc]

/-- What says all of the error, each thing once. -/
def fields (e : DeletionError) : List ErrorField :=
  .key e.key :: ((e.versionId.map .versionId).toList ++ [.code e.code, .message e.message])

/-- The error as it is read. -/
def trimmed (e : DeletionError) : DeletionError :=
  { key := Xml.trimmed e.key
    versionId := e.versionId.map Xml.trimmed
    code := Xml.trimmed e.code
    message := Xml.trimmed e.message }

end DeletionError

/-! ### Entries in any order of their elements -/

theorem DeletedObject.showing_of_perm {d : DeletedObject} {fields : List DeletedField}
    (h : fields.Perm d.fields) : ({} : DeletedObject).showing fields = d.trimmed := by
  -- each thing is said once at most, so that any order of the elements says the same
  have hvalues : d.fields.filterMap DeletedField.key? = (some (Xml.trimmed d.key)).toList ∧
      d.fields.filterMap DeletedField.versionId? = (d.versionId.map Xml.trimmed).toList ∧
      d.fields.filterMap DeletedField.deleteMarker? = d.deleteMarker.toList ∧
      d.fields.filterMap DeletedField.deleteMarkerVersionId? =
        (d.deleteMarkerVersionId.map Xml.trimmed).toList := by
    obtain ⟨key, versionId, deleteMarker, deleteMarkerVersionId⟩ := d
    cases versionId <;> cases deleteMarker <;> cases deleteMarkerVersionId <;>
      exact ⟨rfl, rfl, rfl, rfl⟩
  obtain ⟨hkey, hversionId, hmarker, hmarkerVersionId⟩ := hvalues
  rw [showing, lastOf_of_perm h hkey, lastOf_of_perm h hversionId, lastOf_of_perm h hmarker,
    lastOf_of_perm h hmarkerVersionId, Option.or_none, Option.or_none, Option.or_none]
  rfl

theorem DeletionError.showing_of_perm {e : DeletionError} {fields : List ErrorField}
    (h : fields.Perm e.fields) : ({} : DeletionError).showing fields = e.trimmed := by
  have hvalues : e.fields.filterMap ErrorField.key? = (some (Xml.trimmed e.key)).toList ∧
      e.fields.filterMap ErrorField.versionId? = (e.versionId.map Xml.trimmed).toList ∧
      e.fields.filterMap ErrorField.code? = (some (Xml.trimmed e.code)).toList ∧
      e.fields.filterMap ErrorField.message? = (some (Xml.trimmed e.message)).toList := by
    obtain ⟨key, versionId, code, message⟩ := e
    cases versionId <;> exact ⟨rfl, rfl, rfl, rfl⟩
  obtain ⟨hkey, hversionId, hcode, hmessage⟩ := hvalues
  rw [showing, lastOf_of_perm h hkey, lastOf_of_perm h hversionId, lastOf_of_perm h hcode,
    lastOf_of_perm h hmessage, Option.or_none]
  rfl

/-- What an answer says of one object. -/
inductive DeletionEntry where
  | deleted (d : DeletedObject)
  | failed (e : DeletionError)

/-- The element of an entry, by what is in it. -/
inductive DeletionItem where
  | deleted (fields : List DeletedField)
  | failed (fields : List ErrorField)

namespace DeletionItem

def element : DeletionItem → Element
  | deleted fields => .node "Deleted" (fields.map DeletedField.element)
  | failed fields => .node "Error" (fields.map ErrorField.element)

def deleted? : DeletionItem → Option DeletedObject
  | deleted fields => some (({} : DeletedObject).showing fields)
  | _ => none

def error? : DeletionItem → Option DeletionError
  | failed fields => some (({} : DeletionError).showing fields)
  | _ => none

end DeletionItem

namespace DeletionEntry

/-- The item has what is said of the entry in it, in some order. -/
inductive Shown : DeletionEntry → DeletionItem → Prop
  | deleted {d : DeletedObject} {fields : List DeletedField} (h : fields.Perm d.fields) :
      Shown (.deleted d) (.deleted fields)
  | failed {e : DeletionError} {fields : List ErrorField} (h : fields.Perm e.fields) :
      Shown (.failed e) (.failed fields)

def deleted? : DeletionEntry → Option DeletedObject
  | deleted d => some d.trimmed
  | _ => none

def error? : DeletionEntry → Option DeletionError
  | failed e => some e.trimmed
  | _ => none

variable {entry : DeletionEntry} {item : DeletionItem}

theorem Shown.deleted?_eq (h : entry.Shown item) : item.deleted? = entry.deleted? := by
  cases h with
  | deleted h => exact congrArg some (DeletedObject.showing_of_perm h)
  | failed h => rfl

theorem Shown.error?_eq (h : entry.Shown item) : item.error? = entry.error? := by
  cases h with
  | deleted h => rfl
  | failed h => exact congrArg some (DeletionError.showing_of_perm h)

end DeletionEntry

namespace DeletionResult

/-- The names that the reader of an answer knows. -/
def known : List String :=
  ["Deleted", "Error", "Key", "VersionId", "DeleteMarker", "DeleteMarkerVersionId", "Code",
    "Message"]

theorem passesOver_visit : PassesOver visit known := by
  refine .of_names (fun name h p => ?_) (fun name h p text => ?_)
  · unfold visit
    split <;> simp_all [known]
  · have hdeleted : ∀ d, closeInDeleted p d name text = p := by
      intro d
      unfold closeInDeleted
      split <;> simp_all [known]
    have herror : ∀ e, closeInError p e name text = p := by
      intro e
      unfold closeInError
      split <;> simp_all [known]
    simp only [visit]
    split
    · rw [hdeleted]
    · rw [herror]
    · rfl

/-! ### Reading entries -/

def between (result : DeletionResult) : Progress := { result }

def inDeleted (result : DeletionResult) (d : DeletedObject) : Progress :=
  { between result with deleted := some d }

def inError (result : DeletionResult) (e : DeletionError) : Progress :=
  { between result with error := some e }

/-- What has been shown, and then the items. -/
def shown (result : DeletionResult) (items : List DeletionItem) : DeletionResult :=
  { deleted := result.deleted ++ items.filterMap DeletionItem.deleted?
    errors := result.errors ++ items.filterMap DeletionItem.error? }

variable {result : DeletionResult}

theorem shown_nil (result : DeletionResult) : shown result [] = result := by
  simp only [shown, List.filterMap_nil, List.append_nil]

theorem shown_cons (result : DeletionResult) (item : DeletionItem) (items : List DeletionItem) :
    shown (shown result [item]) items = shown result (item :: items) := by
  simp only [shown, List.append_assoc, ← List.filterMap_append, List.singleton_append]

theorem foldlM_deletedFields (d : DeletedObject) (fields : List DeletedField) :
    (Element.nodesAll (fields.map DeletedField.element)).foldlM visit (inDeleted result d) =
      .ok (inDeleted result (d.showing fields)) := by
  refine Element.foldlM_map (inDeleted result) DeletedObject.showing (fun _ => rfl)
    DeletedObject.showing_cons (fun d field => ?_) d fields
  cases field with
  | key text => rw [DeletedField.element, Element.foldlM_text rfl]; rfl
  | versionId text => rw [DeletedField.element, Element.foldlM_text rfl]; rfl
  | deleteMarkerVersionId text => rw [DeletedField.element, Element.foldlM_text rfl]; rfl
  | deleteMarker marker =>
    rw [DeletedField.element, Element.foldlM_text rfl, trimmed_toString_bool]
    simp only [visit, inDeleted, between, closeInDeleted, toString_eq_true]
    rfl

theorem foldlM_errorFields (e : DeletionError) (fields : List ErrorField) :
    (Element.nodesAll (fields.map ErrorField.element)).foldlM visit (inError result e) =
      .ok (inError result (e.showing fields)) := by
  refine Element.foldlM_map (inError result) DeletionError.showing (fun _ => rfl)
    DeletionError.showing_cons (fun e field => ?_) e fields
  cases field with
  | key text => rw [ErrorField.element, Element.foldlM_text rfl]; rfl
  | versionId text => rw [ErrorField.element, Element.foldlM_text rfl]; rfl
  | code text => rw [ErrorField.element, Element.foldlM_text rfl]; rfl
  | message text => rw [ErrorField.element, Element.foldlM_text rfl]; rfl

/-- Each kind of item appends to its own list and leaves the reader between two of them. -/
theorem foldlM_item (result : DeletionResult) (item : DeletionItem) :
    item.element.nodes.foldlM visit (between result) = .ok (between (shown result [item])) := by
  cases item with
  | deleted fields =>
    have hshown : shown result [.deleted fields] =
        { result with deleted := result.deleted ++ [({} : DeletedObject).showing fields] } :=
      congrArg (DeletionResult.mk _) (List.append_nil result.errors)
    rw [hshown]
    exact Element.foldlM_node rfl (foldlM_deletedFields {} fields)
  | failed fields =>
    have hshown : shown result [.failed fields] =
        { result with errors := result.errors ++ [({} : DeletionError).showing fields] } :=
      congrArg (DeletionResult.mk · _) (List.append_nil result.deleted)
    rw [hshown]
    exact Element.foldlM_node rfl (foldlM_errorFields {} fields)

theorem read_of_strewn {items : List DeletionItem} {body : Bytes}
    (h : StrewnDocument known "DeleteResult" (items.map DeletionItem.element) body) :
    read body = .ok (shown {} items) := by
  have hread : readDocument "DeleteResult" visit {} body = .ok (between (shown {} items)) :=
    readDocument_of_items h passesOver_visit between shown shown_nil shown_cons foldlM_item
      (fun _ => rfl) (fun _ => rfl) {}
  rw [read, hread]
  rfl

/-! ### The two lists -/

/-- Each entry has come to the list of its kind, and nothing else has. -/
structure Sorts (entries : List DeletionEntry) (result : DeletionResult) : Prop where
  deleted : result.deleted = entries.filterMap DeletionEntry.deleted?
  errors : result.errors = entries.filterMap DeletionEntry.error?
  count : result.deleted.length + result.errors.length = entries.length

theorem length_filterMap_add (entries : List DeletionEntry) :
    (entries.filterMap DeletionEntry.deleted?).length +
      (entries.filterMap DeletionEntry.error?).length = entries.length := by
  induction entries with
  | nil => rfl
  | cons entry entries ih =>
    cases entry with
    | deleted d =>
      have hdeleted : DeletionEntry.deleted? (.deleted d) = some d.trimmed := rfl
      have herror : DeletionEntry.error? (.deleted d) = none := rfl
      rw [List.filterMap_cons_some hdeleted, List.filterMap_cons_none herror, List.length_cons,
        List.length_cons, ← ih]
      omega
    | failed e =>
      have hdeleted : DeletionEntry.deleted? (.failed e) = none := rfl
      have herror : DeletionEntry.error? (.failed e) = some e.trimmed := rfl
      rw [List.filterMap_cons_none hdeleted, List.filterMap_cons_some herror, List.length_cons,
        List.length_cons, ← ih]
      omega

theorem filterMap_items {entries : List DeletionEntry} {items : List DeletionItem}
    (h : List.Forall₂ DeletionEntry.Shown entries items) :
    items.filterMap DeletionItem.deleted? = entries.filterMap DeletionEntry.deleted? ∧
      items.filterMap DeletionItem.error? = entries.filterMap DeletionEntry.error? := by
  induction h with
  | nil => exact ⟨rfl, rfl⟩
  | cons hentry _ ih =>
    rw [List.filterMap_cons, List.filterMap_cons, List.filterMap_cons, List.filterMap_cons,
      hentry.deleted?_eq, hentry.error?_eq, ih.1, ih.2]
    exact ⟨rfl, rfl⟩

/-- **Every entry comes to its own list.** -/
theorem sorts_of_strewn {entries : List DeletionEntry} {items : List DeletionItem} {body : Bytes}
    (hitems : List.Forall₂ DeletionEntry.Shown entries items)
    (h : StrewnDocument known "DeleteResult" (items.map DeletionItem.element) body) :
    ∃ result, read body = .ok result ∧ Sorts entries result := by
  obtain ⟨hdeleted, herrors⟩ := filterMap_items hitems
  refine ⟨shown {} items, read_of_strewn h, hdeleted, herrors, ?_⟩
  rw [← length_filterMap_add entries, ← hdeleted, ← herrors]
  rfl

/-- An answer with an object that was deleted between two that were not, their elements in
another order, and strangers in front of them and in them. -/
def mixedAnswer : String :=
  "<DeleteResult><Charged/><Error><Message> no</Message><Code>AccessDenied</Code>" ++
  "<Key>b&amp;c</Key></Error>\n<Deleted><DeleteMarkerVersionId>2</DeleteMarkerVersionId>" ++
  "<Role>x</Role><DeleteMarker>true</DeleteMarker><VersionId>1</VersionId><Key> a</Key></Deleted>" ++
  "<Error><Message/><Code>Slow</Code><VersionId>3</VersionId><Key>b</Key></Error></DeleteResult>"

theorem sorts_mixedAnswer :
    ∃ (first : DeletionError) (second : DeletedObject) (third : DeletionError)
      (items : List DeletionItem) (result : DeletionResult),
      List.Forall₂ DeletionEntry.Shown [.failed first, .deleted second, .failed third] items ∧
      StrewnDocument known "DeleteResult" (items.map DeletionItem.element) (utf8 mixedAnswer) ∧
      read (utf8 mixedAnswer) = .ok result ∧
      Sorts [.failed first, .deleted second, .failed third] result ∧
      first.key = "b&c" ∧ second.key = " a" ∧ third.key = "b" := by
  let first : DeletionError := { key := "b&c", code := "AccessDenied", message := " no" }
  let second : DeletedObject :=
    { key := " a", versionId := some "1", deleteMarker := some true,
      deleteMarkerVersionId := some "2" }
  let third : DeletionError := { key := "b", versionId := some "3", code := "Slow" }
  let items : List DeletionItem :=
    [.failed [.message " no", .code "AccessDenied", .key "b&c"],
      .deleted [.deleteMarkerVersionId "2", .deleteMarker true, .versionId "1", .key " a"],
      .failed [.message "", .code "Slow", .versionId "3", .key "b"]]
  have hitems : List.Forall₂ DeletionEntry.Shown
      [.failed first, .deleted second, .failed third] items :=
    .cons (.failed (List.reverse_perm first.fields))
      (.cons (.deleted (List.reverse_perm second.fields))
        (.cons (.failed (List.reverse_perm third.fields)) .nil))
  have hfirst : Strewn known
      ([.message " no", .code "AccessDenied", .key "b&c"].map ErrorField.element) _ :=
    .text allBlank_nil (tagged_of_isName (by decide) _)
      (.text allBlank_nil (tagged_of_isName (by decide) _)
        (.text allBlank_nil (tagged_of_isName (by decide) _) (.done allBlank_nil)))
  have hsecond : Strewn known ([.deleteMarkerVersionId "2", .deleteMarker true, .versionId "1",
      .key " a"].map DeletedField.element) _ :=
    .text allBlank_nil (tagged_of_isName (by decide) _)
      (.stranger allBlank_nil (.text "x") (tagged_of_isName (by decide) _)
        (by decide : "Role" ∉ known)
        (.text allBlank_nil (tagged_of_isName (by decide) _)
          (.text allBlank_nil (tagged_of_isName (by decide) _)
            (.text allBlank_nil (tagged_of_isName (by decide) _) (.done allBlank_nil)))))
  have hmessage : Tagged "Message" [] _ := @Tagged.empty _ "Message" [] (by decide) rfl areNames_nil
  have hthird : Strewn known
      ([.message "", .code "Slow", .versionId "3", .key "b"].map ErrorField.element) _ :=
    .text allBlank_nil hmessage
      (.text allBlank_nil (tagged_of_isName (by decide) _)
        (.text allBlank_nil (tagged_of_isName (by decide) _)
          (.text allBlank_nil (tagged_of_isName (by decide) _) (.done allBlank_nil))))
  have hcharged : Tagged "Charged" [] _ := @Tagged.empty _ "Charged" [] (by decide) rfl areNames_nil
  have hanswer : StrewnDocument known "DeleteResult" (items.map DeletionItem.element) _ :=
    .intro (.blank allBlank_nil)
      (.stranger allBlank_nil (.text "") hcharged (by decide)
        (.node allBlank_nil hfirst (tagged_of_isName (by decide) _)
          (.node (by decide : AllBlank [10]) hsecond (tagged_of_isName (by decide) _)
            (.node allBlank_nil hthird (tagged_of_isName (by decide) _) (.done allBlank_nil)))))
      (tagged_of_isName (by decide) _) allBlank_nil
  have hbody := Eq.mp (congrArg (StrewnDocument known "DeleteResult" _)
    (by decide +kernel : _ = utf8 mixedAnswer)) hanswer
  obtain ⟨result, hread, hsorts⟩ := sorts_of_strewn hitems hbody
  exact ⟨first, second, third, items, result, hitems, hbody, hread, hsorts, rfl, rfl, rfl⟩

end DeletionResult

end ObjectStore
