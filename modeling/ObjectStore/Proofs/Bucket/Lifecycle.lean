import ObjectStore.Bucket.Lifecycle
import ObjectStore.Proofs.Number
import ObjectStore.Proofs.Xml.Layout
/-!
# Lifecycle rules that were written

The reader of rules remembers in which rule it is, in which part of the rule, and the time and
the storage class that it has met in that part.  Each part of a rule begins and ends with nothing
remembered: a transition adds itself to the rule, an expiration becomes that of the rule, and both
leave the reader as they found it (`foldlM_transition`, `foldlM_expiration`).  So the parts do
not touch each other, and neither do the rules (`foldlM_rule`).

**Rules are read as they were written** (`read_document`), but for what every text loses: the
blanks at its two ends.
-/

namespace ObjectStore

open ObjectStore.Xml

/-! ### What is left of a configuration -/

def LifecycleTime.trimmed : LifecycleTime → LifecycleTime
  | .days count => .days count
  | .date text => .date (Xml.trimmed text)

def LifecycleTransition.trimmed (t : LifecycleTransition) : LifecycleTransition :=
  { time := t.time.trimmed, storageClass := Xml.trimmed t.storageClass }

/-- An identifier of blanks alone is none. -/
def LifecycleRule.trimmed (r : LifecycleRule) : LifecycleRule :=
  { id := r.id.bind fun id => nonEmpty (Xml.trimmed id)
    keyPrefix := Xml.trimmed r.keyPrefix
    enabled := r.enabled
    expiration := r.expiration.map LifecycleTime.trimmed
    transitions := r.transitions.map LifecycleTransition.trimmed }

/-- The configuration without the blanks at the ends of its texts. -/
def LifecycleConfig.trimmed (c : LifecycleConfig) : LifecycleConfig :=
  { rules := c.rules.map LifecycleRule.trimmed }

/-! ### Names -/

theorem LifecycleTime.isNamed_element (t : LifecycleTime) : t.element.isNamed = true := by
  cases t with
  | days count => rfl
  | date text => rfl

theorem LifecycleTransition.isNamed_element (t : LifecycleTransition) :
    t.element.isNamed = true := by
  have hname : decide (IsName "Transition") = true := rfl
  have hclass : decide (IsName "StorageClass") = true := rfl
  simp only [element, Element.isNamed, Element.areNamed, t.time.isNamed_element, hname, hclass,
    Bool.and_self]

theorem LifecycleRule.isNamed_element (r : LifecycleRule) : r.element.isNamed = true := by
  have hname : decide (IsName "Rule") = true := rfl
  have hid : ((r.id.map (Element.text "ID")).toList.all Element.isNamed) = true := by
    cases r.id with
    | none => rfl
    | some id => rfl
  have hexpiration : ((r.expiration.map fun t => Element.node "Expiration" [t.element]).toList.all
      Element.isNamed) = true := by
    have hname : decide (IsName "Expiration") = true := rfl
    cases r.expiration with
    | none => rfl
    | some t =>
      simp only [Option.map_some, Option.toList_some, List.all_cons, List.all_nil, Element.isNamed,
        Element.areNamed, t.isNamed_element, hname, Bool.and_self]
  have htransitions :
      (r.transitions.map LifecycleTransition.element).all Element.isNamed = true := by
    rw [List.all_map, List.all_eq_true]
    exact fun t _ => t.isNamed_element
  rw [element, Element.isNamed, hname, Element.areNamed_eq_all, List.all_append, List.all_append,
    List.all_append, hid, htransitions, hexpiration]
  rfl

namespace LifecycleConfig

theorem areNamed_rules (c : LifecycleConfig) :
    Element.areNamed (c.rules.map LifecycleRule.element) = true := by
  rw [Element.areNamed_eq_all, List.all_map, List.all_eq_true]
  exact fun r _ => r.isNamed_element

/-! ### Parts of a rule -/

variable {c : LifecycleConfig} {r : LifecycleRule}

/-- The time of a transition or an expiration is remembered. -/
theorem foldlM_time {p : Progress} (hrule : p.rule = some r) (hpart : p.part ≠ .rule)
    (t : LifecycleTime) :
    t.element.nodes.foldlM visit p = .ok { p with time := some t.trimmed } := by
  cases t with
  | days count =>
    rw [LifecycleTime.element, Element.foldlM_text rfl, trimmed_toString]
    simp only [visit, hrule, closeInRule, if_neg hpart, readUInt32_toString]
    rfl
  | date text =>
    rw [LifecycleTime.element, Element.foldlM_text rfl]
    simp only [visit, hrule, closeInRule, if_neg hpart]
    rfl

/-- A transition is added to the rule, and nothing of it is remembered. -/
theorem foldlM_transition (t : LifecycleTransition) :
    t.element.nodes.foldlM visit { config := c, rule := some r } =
      .ok { config := c, rule := some { r with transitions := r.transitions ++ [t.trimmed] } } := by
  have htime := foldlM_time (p := { config := c, rule := some r, part := .transition }) rfl
    (nomatch ·) t.time
  have hchildren : (Element.nodesAll [t.time.element, .text "StorageClass" t.storageClass]).foldlM
      visit { config := c, rule := some r, part := .transition } =
        .ok { config := c, rule := some r, part := .transition, time := some t.time.trimmed,
              storageClass := Xml.trimmed t.storageClass } := by
    rw [Element.foldlM_cons htime, Element.foldlM_cons (Element.foldlM_text rfl)]
    rfl
  rw [LifecycleTransition.element, Element.foldlM_node rfl hchildren]
  rfl

theorem foldlM_transitions (l : List LifecycleTransition) :
    (Element.nodesAll (l.map LifecycleTransition.element)).foldlM visit
        { config := c, rule := some r } =
      .ok { config := c, rule := some { r with
        transitions := r.transitions ++ l.map LifecycleTransition.trimmed } } := by
  exact Element.foldlM_collect
    (fun ts => ({ config := c, rule := some { r with transitions := ts } } : Progress))
    LifecycleTransition.trimmed (fun _ t => foldlM_transition t) r.transitions l

/-- An expiration becomes that of the rule, and nothing of it is remembered. -/
theorem foldlM_expiration (t : LifecycleTime) :
    (Element.node "Expiration" [t.element]).nodes.foldlM visit { config := c, rule := some r } =
      .ok { config := c, rule := some { r with expiration := some t.trimmed } } := by
  have htime := foldlM_time (p := { config := c, rule := some r, part := .expiration }) rfl
    (nomatch ·) t
  have hchildren : (Element.nodesAll [t.element]).foldlM visit
      { config := c, rule := some r, part := .expiration } =
        .ok { config := c, rule := some r, part := .expiration, time := some t.trimmed } := by
    rw [Element.foldlM_cons htime]
    rfl
  rw [Element.foldlM_node rfl hchildren]
  rfl

/-! ### Rules -/

theorem foldlM_id (id : Option String) :
    (Element.nodesAll (id.map (Element.text "ID")).toList).foldlM visit
        { config := c, rule := some {} } =
      .ok { config := c, rule := some { id := id.bind fun id => nonEmpty (Xml.trimmed id) } } := by
  cases id with
  | none => rfl
  | some id =>
    rw [Option.map_some, Option.toList_some, Element.foldlM_cons (Element.foldlM_text rfl)]
    rfl

theorem foldlM_keyPrefix (text : String) :
    (Element.text "Prefix" text).nodes.foldlM visit { config := c, rule := some r } =
      .ok { config := c, rule := some { r with keyPrefix := Xml.trimmed text } } := by
  rw [Element.foldlM_text rfl]
  rfl

theorem foldlM_status (enabled : Bool) :
    (Element.text "Status" (if enabled then "Enabled" else "Disabled")).nodes.foldlM visit
        { config := c, rule := some r } =
      .ok { config := c, rule := some { r with enabled } } := by
  have hstatus : Xml.trimmed (if enabled then "Enabled" else "Disabled") =
      if enabled then "Enabled" else "Disabled" := by
    cases enabled with
    | false => decide
    | true => decide
  rw [Element.foldlM_text rfl, hstatus]
  cases enabled with
  | false => rfl
  | true => rfl

theorem foldlM_expirations (hr : r.expiration = none) (time : Option LifecycleTime) :
    (Element.nodesAll (time.map fun t => Element.node "Expiration" [t.element]).toList).foldlM
        visit { config := c, rule := some r } =
      .ok { config := c, rule := some { r with
        expiration := time.map LifecycleTime.trimmed } } := by
  cases time with
  | none =>
    rw [Option.map_none, Option.map_none, ← hr]
    rfl
  | some t =>
    rw [Option.map_some, Option.toList_some, Element.foldlM_cons (foldlM_expiration t)]
    rfl

/-- A rule is added to the configuration, and nothing of it is remembered. -/
theorem foldlM_rule (r : LifecycleRule) :
    r.element.nodes.foldlM visit { config := c } =
      .ok { config := { rules := c.rules ++ [r.trimmed] } } := by
  have hchildren : (Element.nodesAll ((r.id.map (Element.text "ID")).toList ++
      [.text "Prefix" r.keyPrefix, .text "Status" (if r.enabled then "Enabled" else "Disabled")] ++
      r.transitions.map LifecycleTransition.element ++
      (r.expiration.map fun t => Element.node "Expiration" [t.element]).toList)).foldlM visit
        { config := c, rule := some {} } = .ok { config := c, rule := some r.trimmed } := by
    rw [List.append_assoc, List.append_assoc, Element.foldlM_append (foldlM_id r.id),
      List.cons_append, Element.foldlM_cons (foldlM_keyPrefix r.keyPrefix), List.cons_append,
      Element.foldlM_cons (foldlM_status r.enabled), List.nil_append,
      Element.foldlM_append (foldlM_transitions r.transitions), foldlM_expirations rfl]
    rfl
  rw [LifecycleRule.element, Element.foldlM_node rfl hchildren]
  rfl

theorem foldlM_rules (l : List LifecycleRule) :
    (Element.nodesAll (l.map LifecycleRule.element)).foldlM visit { config := c } =
      .ok { config := { rules := c.rules ++ l.map LifecycleRule.trimmed } } := by
  exact Element.foldlM_collect (fun rules => ({ config := { rules } } : Progress))
    LifecycleRule.trimmed (fun _ r => foldlM_rule r) c.rules l

/-- **Rules are read as they were written.** Every configuration is read from its own document,
rule by rule and part by part, without the blanks at the ends of its texts. -/
theorem read_document (c : LifecycleConfig) : read (utf8 c.document) = .ok c.trimmed := by
  have hwritten : Written (.node "LifecycleConfiguration" (c.rules.map LifecycleRule.element))
      (utf8 c.document) := written_renderDocument (by decide) c.areNamed_rules
  have hread : readDocument "LifecycleConfiguration" visit {} (utf8 c.document) =
      .ok { config := c.trimmed } := by
    refine (readDocument_of_written hwritten visit {}).trans ?_
    rw [Element.foldlM_node rfl (foldlM_rules c.rules)]
    rfl
  rw [read, hread]
  rfl

end LifecycleConfig

end ObjectStore
