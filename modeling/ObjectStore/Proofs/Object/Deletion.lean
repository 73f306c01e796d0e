import ObjectStore.Object.Deletion
import ObjectStore.Proofs.Xml.Stretch
/-!
# Objects that are named for deletion

A document that asks for deletions is read here by someone who has only its text: who cuts it at its
tags (`Xml.stretches`), replaces the references in the character data, and notes an object at each
`</Object>` (`Asked.take`).  Which tags the document has is settled before any key is known
(`deletionTags`), and between them stand the keys and the versions, so that **exactly the given
objects are named** (`namesExactly_deletionRequest`): whatever a key contains, it stays a key.
-/

namespace ObjectStore

open ObjectStore.Xml

/-! ### The tags of a request -/

/-- The tags below the outermost element, from whether each object has a version. -/
def deletionTags (quiet : Bool) (versioned : List Bool) : List String :=
  (if quiet then ["Quiet", "/Quiet"] else []) ++ versioned.flatMap fun hasVersion =>
    ["Object", "Key", "/Key"] ++ (if hasVersion then ["VersionId", "/VersionId"] else []) ++
      ["/Object"]

/-- What the outermost element of a request contains. -/
def deletionElements (objects : List ObjectName) (quiet : Bool) : List Element :=
  (if quiet then [Element.text "Quiet" "true"] else []) ++ objects.map ObjectName.element

/-- The flag that asks for errors only. -/
def quietStretches (quiet : Bool) : List Stretch :=
  if quiet then [⟨"Quiet", escape "true"⟩, ⟨"/Quiet", ""⟩] else []

namespace ObjectName

variable (o : ObjectName)

theorem isNamed_element : o.element.isNamed = true := by
  obtain ⟨key, versionId⟩ := o
  cases versionId with
  | none => rfl
  | some versionId => rfl

theorem map_tag_stretches : o.element.stretches.map Stretch.tag =
    ["Object", "Key", "/Key"] ++
      (if o.versionId.isSome then ["VersionId", "/VersionId"] else []) ++ ["/Object"] := by
  obtain ⟨key, versionId⟩ := o
  cases versionId with
  | none => rfl
  | some versionId => rfl

theorem dataOf_key : dataOf "Key" o.element.stretches = [escape o.key] := by
  obtain ⟨key, versionId⟩ := o
  cases versionId with
  | none => rfl
  | some versionId => rfl

theorem dataOf_versionId :
    dataOf "VersionId" o.element.stretches = (o.versionId.map escape).toList := by
  obtain ⟨key, versionId⟩ := o
  cases versionId with
  | none => rfl
  | some versionId => rfl

end ObjectName

variable {objects : List ObjectName} {quiet : Bool}

theorem areNamed_deletionElements (objects : List ObjectName) (quiet : Bool) :
    Element.areNamed (deletionElements objects quiet) = true := by
  have hobjects : (objects.map ObjectName.element).all Element.isNamed = true := by
    rw [List.all_map, List.all_eq_true]
    intro o _
    exact o.isNamed_element
  rw [Element.areNamed_eq_all, deletionElements, List.all_append, hobjects, Bool.and_true]
  cases quiet with
  | false => rfl
  | true => rfl

/-- The tags of a request with the data behind them, object by object. -/
theorem stretchesAll_deletionElements :
    Element.stretchesAll (deletionElements objects quiet) =
      quietStretches quiet ++ objects.flatMap fun o => o.element.stretches := by
  rw [Element.stretchesAll_eq_flatMap, deletionElements, List.flatMap_append, List.flatMap_map]
  cases quiet with
  | false => rfl
  | true => rfl

theorem map_tag_deletionElements :
    (Element.stretchesAll (deletionElements objects quiet)).map Stretch.tag =
      deletionTags quiet (objects.map (·.versionId.isSome)) := by
  rw [stretchesAll_deletionElements, List.map_append, List.map_flatMap, deletionTags,
    List.flatMap_map]
  simp only [ObjectName.map_tag_stretches]
  cases quiet with
  | false => rfl
  | true => rfl

theorem stretches_deletionRequest : stretches (deletionRequest objects quiet) =
    (prologTags "Delete").map (⟨·, ""⟩) ++
      (Element.stretchesAll (deletionElements objects quiet) ++ [⟨"/Delete", ""⟩]) :=
  stretches_renderDocument (by decide) (areNamed_deletionElements objects quiet)

/-! ### The text between the tags -/

theorem dataOf_deletionRequest {tag : String} (h : tag ∈ ["Key", "VersionId"]) :
    dataOf tag (stretches (deletionRequest objects quiet)) =
      objects.flatMap fun o => dataOf tag o.element.stretches := by
  have hempty : ∀ tag ∈ ["Key", "VersionId"],
      dataOf tag ((prologTags "Delete").map (⟨·, ""⟩)) = [] ∧
        (∀ quiet, dataOf tag (quietStretches quiet) = []) ∧
        dataOf tag [⟨"/Delete", ""⟩] = [] := by
    decide +kernel
  obtain ⟨hprolog, hquiet, hlast⟩ := hempty tag h
  have happend : ∀ first second : List Stretch,
      dataOf tag (first ++ second) = dataOf tag first ++ dataOf tag second :=
    fun first second => List.filterMap_append
  rw [stretches_deletionRequest, stretchesAll_deletionElements, happend, happend, happend, hprolog,
    hquiet, hlast, List.nil_append, List.nil_append, List.append_nil, dataOf,
    List.filterMap_flatMap]
  rfl

theorem dataOf_key_deletionRequest : dataOf "Key" (stretches (deletionRequest objects quiet)) =
    objects.map fun o => escape o.key := by
  rw [dataOf_deletionRequest (by decide), List.map_eq_flatMap]
  simp only [ObjectName.dataOf_key]

theorem dataOf_versionId_deletionRequest :
    dataOf "VersionId" (stretches (deletionRequest objects quiet)) =
      (objects.filterMap (·.versionId)).map escape := by
  rw [dataOf_deletionRequest (by decide), List.map_filterMap]
  simp only [ObjectName.dataOf_versionId]
  induction objects with
  | nil => rfl
  | cons o objects ih =>
    rw [List.flatMap_cons, ih]
    cases h : o.versionId with
    | none => simp [h]
    | some versionId => simp [h]

/-! ### What a receiver reads -/

/-- What a document asks for, as far as it has been read. -/
structure Asked where
  objects : List ObjectName := []
  /-- The object whose element is open. -/
  current : Option ObjectName := none
  quiet : Bool := false

namespace Asked

def take (a : Asked) (p : Stretch) : Except Xml.Fault Asked :=
  match p.tag with
  | "Quiet" => .ok { a with quiet := p.data = "true" }
  | "Object" => .ok { a with current := some { key := "" } }
  | "Key" => do
    let key ← plainText p.data
    return { a with current := a.current.map fun o => { o with key } }
  | "VersionId" => do
    let versionId ← plainText p.data
    return { a with current := a.current.map fun o => { o with versionId := some versionId } }
  | "/Object" => .ok { a with objects := a.objects ++ a.current.toList, current := none }
  | _ => .ok a

/-- What a document asks for. -/
def ofDocument (document : String) : Except Xml.Fault Asked :=
  (stretches document).foldlM take {}

variable {a b : Asked}

theorem take_key (a : Asked) (key : String) : take a ⟨"Key", escape key⟩ =
    .ok { a with current := a.current.map fun o => { o with key } } := by
  simp only [take, plainText_escape]
  rfl

theorem take_versionId (a : Asked) (versionId : String) : take a ⟨"VersionId", escape versionId⟩ =
    .ok { a with current := a.current.map fun o => { o with versionId := some versionId } } := by
  simp only [take, plainText_escape]
  rfl

theorem foldlM_cons {p : Stretch} (h : take a p = .ok b) (l : List Stretch) :
    (p :: l).foldlM take a = l.foldlM take b := by
  rw [List.foldlM_cons, h]
  rfl

theorem foldlM_append {first : List Stretch} (h : first.foldlM take a = .ok b)
    (second : List Stretch) : (first ++ second).foldlM take a = second.foldlM take b := by
  rw [List.foldlM_append, h]
  rfl

/-- Between two objects, a reader has those that it has passed and none that is open. -/
theorem foldlM_object (o : ObjectName) :
    o.element.stretches.foldlM take { objects, quiet } =
      .ok { objects := objects ++ [o], quiet } := by
  obtain ⟨key, versionId⟩ := o
  cases versionId with
  | none =>
    show List.foldlM take _ [⟨"Object", ""⟩, ⟨"Key", escape key⟩, ⟨"/Key", ""⟩, ⟨"/Object", ""⟩] = _
    rw [foldlM_cons rfl, foldlM_cons (take_key _ key)]
    rfl
  | some versionId =>
    show List.foldlM take _ [⟨"Object", ""⟩, ⟨"Key", escape key⟩, ⟨"/Key", ""⟩,
      ⟨"VersionId", escape versionId⟩, ⟨"/VersionId", ""⟩, ⟨"/Object", ""⟩] = _
    rw [foldlM_cons rfl, foldlM_cons (take_key _ key), foldlM_cons rfl,
      foldlM_cons (take_versionId _ versionId)]
    rfl

theorem foldlM_objects (l : List ObjectName) :
    (l.flatMap fun o => o.element.stretches).foldlM take { objects, quiet } =
      .ok { objects := objects ++ l, quiet } := by
  induction l generalizing objects with
  | nil =>
    rw [List.append_nil]
    rfl
  | cons o l ih =>
    rw [List.flatMap_cons, foldlM_append (foldlM_object o), ih, List.append_assoc,
      List.singleton_append]

theorem ofDocument_deletionRequest (objects : List ObjectName) (quiet : Bool) :
    ofDocument (deletionRequest objects quiet) = .ok { objects, quiet } := by
  have hprolog : ((prologTags "Delete").map (⟨·, ""⟩)).foldlM take {} = .ok {} := rfl
  have hquiet : (quietStretches quiet).foldlM take {} = .ok { quiet } := by
    cases quiet with
    | false => rfl
    | true => rfl
  rw [ofDocument, stretches_deletionRequest, stretchesAll_deletionElements, foldlM_append hprolog,
    List.append_assoc, foldlM_append hquiet, foldlM_append (foldlM_objects objects),
    List.nil_append]
  rfl

end Asked

/-! ### The request -/

/-- The document names the given objects for deletion and nothing else. -/
structure NamesExactly (objects : List ObjectName) (quiet : Bool) (document : String) : Prop where
  /-- Who reads the nodes of the document meets the given tags, below `Delete`. -/
  read : ∃ nodes, Document.ofBytes (utf8 document) = ⟨nodes, .ok (some "Delete")⟩ ∧
    nodes.map Node.tag =
      "Delete" :: (deletionTags quiet (objects.map (·.versionId.isSome)) ++ ["/Delete"])
  /-- So does who takes every bracket of the text for one of a tag. -/
  tags : (stretches document).map Stretch.tag =
    prologTags "Delete" ++
      (deletionTags quiet (objects.map (·.versionId.isSome)) ++ ["/Delete"])
  keys : (dataOf "Key" (stretches document)).map plainText = objects.map fun o => .ok o.key
  versionIds : (dataOf "VersionId" (stretches document)).map plainText =
    (objects.filterMap (·.versionId)).map .ok
  asked : Asked.ofDocument document = .ok { objects, quiet }
  only : ∀ objects' quiet', deletionRequest objects' quiet' = document →
    objects' = objects ∧ quiet' = quiet

/-- **Exactly the given objects are named**, and every object by its own key and version. -/
theorem namesExactly_deletionRequest (objects : List ObjectName) (quiet : Bool) :
    NamesExactly objects quiet (deletionRequest objects quiet) := by
  constructor
  · have hname : IsName "Delete" := by decide
    have hwritten := written_renderDocument hname (areNamed_deletionElements objects quiet)
    refine ⟨_, Document.ofBytes_of_written hwritten, ?_⟩
    rw [Element.map_tag_nodes, Element.stretches, List.map_cons, List.map_append,
      map_tag_deletionElements]
    rfl
  · rw [stretches_deletionRequest, List.map_append, List.map_append, map_tag_deletionElements]
    rfl
  · rw [dataOf_key_deletionRequest, List.map_map]
    exact List.map_congr_left fun o _ => plainText_escape o.key
  · rw [dataOf_versionId_deletionRequest, List.map_map]
    exact List.map_congr_left fun versionId _ => plainText_escape versionId
  · exact Asked.ofDocument_deletionRequest objects quiet
  · intro objects' quiet' heq
    have hread := Asked.ofDocument_deletionRequest objects' quiet'
    rw [heq, Asked.ofDocument_deletionRequest, Except.ok.injEq, Asked.mk.injEq] at hread
    exact ⟨hread.1.symm, hread.2.2.symm⟩

end ObjectStore
