/-!
# Dialogues

A computation that asks and is answered is a tree: it is done with a value, or it asks a
question and goes on as the answer says.  What an answer does in the world is left to whoever
runs the tree, so every statement about a dialogue holds for every world.

A dialogue may also stop `unfinished`: a loop without a bound of its own is given a budget of
rounds, and this is where the budget ends.
-/

namespace ObjectStore

/-- A computation with questions in `Q`, answers in `R` and a value in `α`. -/
inductive Dialogue (Q R α : Type) : Type where
  | done (value : α)
  | ask (question : Q) (next : R → Dialogue Q R α)
  | unfinished

namespace Dialogue

variable {Q R α β : Type}

def bind (d : Dialogue Q R α) (f : α → Dialogue Q R β) : Dialogue Q R β :=
  match d with
  | .done a => f a
  | .ask q next => .ask q fun r => (next r).bind f
  | .unfinished => .unfinished

instance : Monad (Dialogue Q R) where
  pure := .done
  bind := bind

instance : Inhabited (Dialogue Q R α) := ⟨.unfinished⟩

def question (q : Q) : Dialogue Q R R := .ask q .done

/-- Hold a dialogue in a world that answers: the value, if there is one. -/
def run {m : Type → Type} [Monad m] (answer : Q → m R) : Dialogue Q R α → m (Option α)
  | .done a => pure (some a)
  | .ask q next => do
    let r ← answer q
    (next r).run answer
  | .unfinished => pure none

/-- Hold a dialogue against a list of answers: the questions asked, the answers left over,
and the value if it was reached. -/
def replay : Dialogue Q R α → List R → List Q × List R × Option α
  | .done a, rs => ([], rs, some a)
  | .ask q _, [] => ([q], [], none)
  | .ask q next, r :: rs =>
    let (qs, rest, value) := (next r).replay rs
    (q :: qs, rest, value)
  | .unfinished, rs => ([], rs, none)

end Dialogue

end ObjectStore
