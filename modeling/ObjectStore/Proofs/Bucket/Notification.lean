import ObjectStore.Bucket.Notification
import ObjectStore.Proofs.Xml.Layout
/-!
# Destinations that were written

The reader of destinations keeps one destination at a time, and which element names its resource
depends on that destination's kind.  None of these elements is named like an identifier, an event
or a whole destination, so that the end of an element always changes the one field it was written
for (`closeInDestination_arn`).  A destination is added when its element ends, and then none is
kept: nothing passes from one destination to the next (`foldlM_destination`).

**Destinations are read as they were written** (`read_document_eq_trimmed`), but for what every text
loses: the blanks at its two ends.
-/

namespace ObjectStore

open ObjectStore.Xml

/-! ### What is left of a configuration -/

/-- An identifier of blanks alone is none. -/
def EventDestination.trimmed (d : EventDestination) : EventDestination :=
  { target := d.target
    id := d.id.bind fun id => nonEmpty (Xml.trimmed id)
    arn := Xml.trimmed d.arn
    events := d.events.map Xml.trimmed }

/-- The configuration without the blanks at the ends of its texts. -/
def NotificationConfig.trimmed (c : NotificationConfig) : NotificationConfig :=
  { destinations := c.destinations.map EventDestination.trimmed }

/-! ### Names -/

namespace NotificationTarget

theorem ofElement?_configurationElement (t : NotificationTarget) :
    ofElement? t.configurationElement = some t := by
  cases t with
  | topic => rfl
  | queue => rfl
  | function => rfl

/-- The elements in a destination do not begin or end one. -/
theorem ofElement?_arnElement (t : NotificationTarget) : ofElement? t.arnElement = none := by
  cases t with
  | topic => rfl
  | queue => rfl
  | function => rfl

theorem arnElement_ne (t : NotificationTarget) : t.arnElement ≠ "Id" ∧ t.arnElement ≠ "Event" := by
  cases t with
  | topic => decide
  | queue => decide
  | function => decide

theorem isName_elements (t : NotificationTarget) :
    IsName t.configurationElement ∧ IsName t.arnElement := by
  cases t with
  | topic => decide
  | queue => decide
  | function => decide

end NotificationTarget

theorem EventDestination.isNamed_element (d : EventDestination) : d.element.isNamed = true := by
  obtain ⟨hconfiguration, harn⟩ := d.target.isName_elements
  have hid : (d.id.map (Element.text "Id")).toList.all Element.isNamed = true := by
    cases d.id with
    | none => rfl
    | some id => rfl
  have hevents : (d.events.map (Element.text "Event")).all Element.isNamed = true := by
    rw [List.all_map, List.all_eq_true]
    intro event _
    rfl
  simp only [element, Element.isNamed, Element.areNamed_eq_all, List.all_append, List.all_cons,
    List.all_nil, hid, hevents, hconfiguration, harn, decide_true, Bool.and_self]

namespace NotificationConfig

theorem areNamed_destinations (c : NotificationConfig) :
    Element.areNamed (c.destinations.map EventDestination.element) = true := by
  rw [Element.areNamed_eq_all, List.all_map, List.all_eq_true]
  intro d _
  exact d.isNamed_element

/-! ### Fields of a destination -/

variable {c : NotificationConfig} {d : EventDestination}

theorem closeInDestination_arn (p : Progress) (d : EventDestination) (text : String) :
    closeInDestination p d d.target.arnElement text =
      { p with current := some { d with arn := text } } := by
  obtain ⟨hid, hevent⟩ := d.target.arnElement_ne
  rw [closeInDestination, if_neg hid, if_neg hevent, if_pos rfl]

/-- An element inside a destination is read into that destination. -/
theorem foldlM_field {name : String} (hname : NotificationTarget.ofElement? name = none)
    (text : String) :
    (Element.text name text).nodes.foldlM visit { config := c, current := some d } =
      .ok (closeInDestination { config := c, current := some d } d name (Xml.trimmed text)) := by
  have hopened : visit { config := c, current := some d } (.opened name) =
      .ok { config := c, current := some d } := by
    simp only [visit, hname]
  rw [Element.foldlM_text hopened]
  simp only [visit, hname]

theorem foldlM_id (target : NotificationTarget) (id : Option String) :
    (Element.nodesAll (id.map (Element.text "Id")).toList).foldlM visit
        { config := c, current := some { target } } =
      .ok { config := c, current := some
              { target, id := id.bind fun id => nonEmpty (Xml.trimmed id) } } := by
  cases id with
  | none => rfl
  | some id =>
    rw [Option.map_some, Option.toList_some, Element.foldlM_cons (foldlM_field rfl id)]
    rfl

theorem foldlM_arn (text : String) :
    (Element.text d.target.arnElement text).nodes.foldlM visit
        { config := c, current := some d } =
      .ok { config := c, current := some { d with arn := Xml.trimmed text } } := by
  rw [foldlM_field d.target.ofElement?_arnElement, closeInDestination_arn]

theorem foldlM_events (l : List String) :
    (Element.nodesAll (l.map (Element.text "Event"))).foldlM visit
        { config := c, current := some d } =
      .ok { config := c, current := some { d with
        events := d.events ++ l.map Xml.trimmed } } := by
  refine Element.foldlM_collect
    (fun events => ({ config := c, current := some { d with events } } : Progress))
    Xml.trimmed (fun events event => ?_) d.events l
  rw [foldlM_field rfl event]
  rfl

/-! ### Destinations -/

/-- A destination is added to the configuration, and nothing of it is kept. -/
theorem foldlM_destination (d : EventDestination) :
    d.element.nodes.foldlM visit { config := c } =
      .ok { config := { destinations := c.destinations ++ [d.trimmed] } } := by
  have htarget := d.target.ofElement?_configurationElement
  have hopened : visit { config := c } (.opened d.target.configurationElement) =
      .ok { config := c, current := some { target := d.target } } := by
    simp only [visit, htarget]
  have hchildren : (Element.nodesAll ((d.id.map (Element.text "Id")).toList ++
      [.text d.target.arnElement d.arn] ++ d.events.map (Element.text "Event"))).foldlM visit
        { config := c, current := some { target := d.target } } =
          .ok { config := c, current := some d.trimmed } := by
    rw [List.append_assoc, Element.foldlM_append (foldlM_id d.target d.id),
      List.singleton_append, Element.foldlM_cons (foldlM_arn d.arn), foldlM_events]
    rfl
  rw [EventDestination.element, Element.foldlM_node hopened hchildren]
  simp only [visit, htarget, Option.toList_some]

theorem foldlM_destinations (l : List EventDestination) :
    (Element.nodesAll (l.map EventDestination.element)).foldlM visit { config := c } =
      .ok { config := { destinations := c.destinations ++ l.map EventDestination.trimmed } } := by
  exact Element.foldlM_collect (fun destinations => ({ config := { destinations } } : Progress))
    EventDestination.trimmed (fun _ d => foldlM_destination d) c.destinations l

/-- **Destinations are read as they were written.** Every configuration is read from its own
document: each destination with its own identifier, resource name and events, all of them in
order, without the blanks at the ends of the texts. -/
theorem read_document_eq_trimmed (c : NotificationConfig) :
    read (utf8 c.document) = .ok c.trimmed := by
  have hwritten : Written
      (.node "NotificationConfiguration" (c.destinations.map EventDestination.element))
      (utf8 c.document) := written_renderDocument (by decide) c.areNamed_destinations
  have hread : readDocument "NotificationConfiguration" visit {} (utf8 c.document) =
      .ok { config := c.trimmed } := by
    refine (readDocument_of_written hwritten visit {}).trans ?_
    rw [Element.foldlM_node rfl (foldlM_destinations c.destinations)]
    rfl
  rw [read, hread]
  rfl

end NotificationConfig

end ObjectStore
