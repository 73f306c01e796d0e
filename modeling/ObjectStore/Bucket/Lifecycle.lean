import ObjectStore.Xml.Element
import ObjectStore.Xml.Field
/-!
# Lifecycle rules

A rule says when the objects under a prefix move to other storage classes and when they
expire.  `LifecycleConfig.document` writes the rules of a bucket and `LifecycleConfig.read`
reads them.
-/

namespace ObjectStore

open ObjectStore.Xml

inductive LifecycleTime where
  | days (count : UInt32)
  | date (text : String)
  deriving Repr, DecidableEq

structure LifecycleTransition where
  time : LifecycleTime
  storageClass : String
  deriving Repr, DecidableEq

/-- What happens to the objects under a prefix. -/
structure LifecycleRule where
  id : Option String := none
  keyPrefix : String := ""
  enabled : Bool := false
  expiration : Option LifecycleTime := none
  transitions : List LifecycleTransition := []
  deriving Repr, DecidableEq

structure LifecycleConfig where
  rules : List LifecycleRule := []
  deriving Repr, DecidableEq

/-! ### Writing -/

def LifecycleTime.element : LifecycleTime → Element
  | .days count => .text "Days" (toString count.toNat)
  | .date text => .text "Date" text

def LifecycleTransition.element (t : LifecycleTransition) : Element :=
  .node "Transition" [t.time.element, .text "StorageClass" t.storageClass]

def LifecycleRule.element (r : LifecycleRule) : Element :=
  .node "Rule"
    ((r.id.map (Element.text "ID")).toList ++
      [.text "Prefix" r.keyPrefix,
        .text "Status" (if r.enabled then "Enabled" else "Disabled")] ++
      r.transitions.map LifecycleTransition.element ++
      (r.expiration.map fun t => Element.node "Expiration" [t.element]).toList)

/-- The document that gives a bucket its rules. -/
def LifecycleConfig.document (c : LifecycleConfig) : String :=
  renderDocument "LifecycleConfiguration" (c.rules.map LifecycleRule.element)

/-! ### Reading -/

namespace LifecycleConfig

inductive Section where
  | rule
  | transition
  | expiration
  deriving Repr, DecidableEq

structure Progress where
  config : LifecycleConfig := {}
  rule : Option LifecycleRule := none
  part : Section := .rule
  time : Option LifecycleTime := none
  storageClass : String := ""

def closeInRule (p : Progress) (r : LifecycleRule) (name text : String) :
    Except Xml.Fault Progress :=
  match name with
  | "ID" => .ok { p with rule := some { r with id := nonEmpty text } }
  | "Prefix" => .ok { p with rule := some { r with keyPrefix := text } }
  | "Status" => .ok { p with rule := some { r with enabled := text = "Enabled" } }
  | "Days" =>
    if p.part = .rule then .ok p
    else do
      let count ← readUInt32 "Days" text
      return { p with time := some (.days count) }
  | "Date" => .ok (if p.part = .rule then p else { p with time := some (.date text) })
  | "StorageClass" => .ok (if p.part = .transition then { p with storageClass := text } else p)
  | "Transition" =>
    match p.time with
    | some time =>
      let t : LifecycleTransition := { time, storageClass := p.storageClass }
      .ok { p with rule := some { r with transitions := r.transitions ++ [t] },
                   time := none, storageClass := "", part := .rule }
    | none => .ok { p with part := .rule }
  | "Expiration" =>
    .ok { p with rule := some { r with expiration := p.time }, time := none, part := .rule }
  | "Rule" => .ok { p with rule := none, config := { rules := p.config.rules ++ [r] } }
  | _ => .ok p

def visit (p : Progress) : Node → Except Xml.Fault Progress
  | .opened "Rule" => .ok { p with rule := some {}, part := .rule }
  | .opened "Transition" => .ok { p with part := .transition, time := none, storageClass := "" }
  | .opened "Expiration" => .ok { p with part := .expiration, time := none }
  | .opened _ => .ok p
  | .closed name text =>
    match p.rule with
    | some r => closeInRule p r name text
    | none => .ok p

def read (s : Bytes) : Except Xml.Fault LifecycleConfig := do
  let p ← readDocument "LifecycleConfiguration" visit {} s
  return p.config

end LifecycleConfig

end ObjectStore
