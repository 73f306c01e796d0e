import ObjectStore.Xml.Element
import ObjectStore.Xml.Field
/-!
# Event notifications

A bucket can report events to topics, queues and functions.  `NotificationConfig.document`
writes the destinations of a bucket and `NotificationConfig.read` reads them.
-/

namespace ObjectStore

open ObjectStore.Xml

inductive NotificationTarget where
  | topic
  | queue
  | function
  deriving Repr, DecidableEq

namespace NotificationTarget

def configurationElement : NotificationTarget → String
  | .topic => "TopicConfiguration"
  | .queue => "QueueConfiguration"
  | .function => "CloudFunctionConfiguration"

def arnElement : NotificationTarget → String
  | .topic => "Topic"
  | .queue => "Queue"
  | .function => "CloudFunction"

def ofElement? : String → Option NotificationTarget
  | "TopicConfiguration" => some .topic
  | "QueueConfiguration" => some .queue
  | "CloudFunctionConfiguration" => some .function
  | _ => none

end NotificationTarget

/-- A destination and the events that it is told of. -/
structure EventDestination where
  target : NotificationTarget
  id : Option String := none
  arn : String := ""
  events : List String := []
  deriving Repr, DecidableEq

structure NotificationConfig where
  destinations : List EventDestination := []
  deriving Repr, DecidableEq

def EventDestination.element (d : EventDestination) : Element :=
  .node d.target.configurationElement
    ((d.id.map (Element.text "Id")).toList ++ [.text d.target.arnElement d.arn] ++
      d.events.map (Element.text "Event"))

/-- The document that gives a bucket its destinations. -/
def NotificationConfig.document (c : NotificationConfig) : String :=
  renderDocument "NotificationConfiguration" (c.destinations.map EventDestination.element)

namespace NotificationConfig

structure Progress where
  config : NotificationConfig := {}
  current : Option EventDestination := none

def closeInDestination (p : Progress) (d : EventDestination) (name text : String) : Progress :=
  if name = "Id" then { p with current := some { d with id := nonEmpty text } }
  else if name = "Event" then { p with current := some { d with events := d.events ++ [text] } }
  else if name = d.target.arnElement then { p with current := some { d with arn := text } }
  else p

def visit (p : Progress) : Node → Except Xml.Fault Progress
  | .opened name =>
    match NotificationTarget.ofElement? name with
    | some target => .ok { p with current := some { target } }
    | none => .ok p
  | .closed name text =>
    match NotificationTarget.ofElement? name, p.current with
    | some _, current =>
      .ok { p with current := none,
                   config := { destinations := p.config.destinations ++ current.toList } }
    | none, some d => .ok (closeInDestination p d name text)
    | none, none => .ok p

def read (s : Bytes) : Except Xml.Fault NotificationConfig := do
  let p ← readDocument "NotificationConfiguration" visit {} s
  return p.config

end NotificationConfig

end ObjectStore
