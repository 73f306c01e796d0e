import ObjectStore.Client
/-!
# Sessions

A command is a session with the world around it: it sends requests, prints, asks for a line
and reads files.  Like a dialogue, a session is a tree that says what is done next for every
answer; **what the world answers is left to whoever runs it.**
-/

namespace ObjectStore.Command

/-- A computation with the effects of a command and a value in `α`. -/
inductive Session (α : Type) : Type where
  | done (value : α)
  | send (request : Http.Request) (next : Except Fault Http.Response → Session α)
  | print (text : String) (next : Session α)
  | readLine (next : String → Session α)
  | contents (name : String) (next : Except InputFault Bytes → Session α)
  | unfinished

namespace Session

variable {α β : Type}

def bind (s : Session α) (f : α → Session β) : Session β :=
  match s with
  | .done a => f a
  | .send q next => .send q fun r => (next r).bind f
  | .print text next => .print text (next.bind f)
  | .readLine next => .readLine fun l => (next l).bind f
  | .contents name next => .contents name fun c => (next c).bind f
  | .unfinished => .unfinished

instance : Monad Session where
  pure := .done
  bind := bind

/-- The session that sends the requests of a dialogue. -/
def ofDialogue : Dialogue Http.Request (Except Fault Http.Response) α → Session α
  | .done a => .done a
  | .ask q next => .send q fun r => ofDialogue (next r)
  | .unfinished => .unfinished

end Session

/-- What answers a session. -/
structure World (m : Type → Type) where
  send : Http.Request → m (Except Fault Http.Response)
  print : String → m PUnit
  readLine : m String
  contents : String → m (Except InputFault Bytes)

/-- Hold a session in a world: the value, if it is reached. -/
def Session.run {m : Type → Type} [Monad m] (w : World m) {α : Type} :
    Session α → m (Option α)
  | .done a => pure (some a)
  | .send q next => do
    let r ← w.send q
    (next r).run w
  | .print text next => do
    w.print text
    next.run w
  | .readLine next => do
    let l ← w.readLine
    (next l).run w
  | .contents name next => do
    let c ← w.contents name
    (next c).run w
  | .unfinished => pure none

end ObjectStore.Command
