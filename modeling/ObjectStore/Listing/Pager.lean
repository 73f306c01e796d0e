import ObjectStore.Dialogue
import ObjectStore.Fault
import ObjectStore.Listing.Chunk
import ObjectStore.Query
/-!
# Following a listing

A `Pager` asks for pages and decides after each answer what comes next: the same page again
after a transient fault, the next page after a truncated one, or the result.  **A listing
ends:** it fails after more consecutive transient faults than allowed, and it fails when a
truncated page names no way on or the way that led to it.
-/

namespace ObjectStore.Listing

/-- The query parameters by which one kind of listing is asked for. -/
structure Kind where
  /-- What is listed, for the wording of faults. -/
  name : String
  /-- The parameter that selects the listing. -/
  flag : Option String := none
  /-- Parameters that never change. -/
  fixed : List (String × String) := []
  limitName : String
  primaryName : String
  secondaryName : Option String := none
  deriving Repr, DecidableEq

namespace Kind

def objects : Kind :=
  { name := "objects", fixed := [("list-type", "2")], limitName := "max-keys",
    primaryName := "continuation-token" }

def versions : Kind :=
  { name := "versions", flag := some "versions", limitName := "max-keys",
    primaryName := "key-marker", secondaryName := some "version-id-marker" }

def uploads : Kind :=
  { name := "multipart uploads", flag := some "uploads", limitName := "max-uploads",
    primaryName := "key-marker", secondaryName := some "upload-id-marker" }

def parts : Kind :=
  { name := "multipart parts", limitName := "max-parts", primaryName := "part-number-marker" }

end Kind

/-- What is to be listed, and from where on. -/
structure PageState where
  keyPrefix : Option String := none
  delimiter : Option String := none
  limit : Option UInt32 := none
  markers : Markers := {}
  deriving Repr, DecidableEq

/-- Give a query the markers; a marker that is absent is not sent. -/
def Kind.withMarkers (k : Kind) (q : Query) (m : Markers) : Query :=
  let q := q.setOrRemove k.primaryName m.primary
  match k.secondaryName with
  | some name => q.setOrRemove name m.secondary
  | none => q

def Kind.pageQuery (k : Kind) (base : Query) (s : PageState) : Query :=
  let q :=
    match k.flag with
    | some flag => base.flag flag
    | none => base
  let q := k.fixed.foldl (fun q p => q.set p.1 p.2) q
  let q := q.setOrRemove "prefix" s.keyPrefix
  let q := q.setOrRemove "delimiter" s.delimiter
  let q := q.setOrRemove k.limitName (s.limit.map fun n => toString n.toNat)
  k.withMarkers q s.markers

inductive Mode where
  | merge
  | chunk
  deriving Repr, DecidableEq

structure Plan where
  kind : Kind
  base : Query := Query.empty
  start : PageState := {}
  mode : Mode := .merge
  context : Context := {}
  /-- How many transient faults in a row are put up with. -/
  retryMax : Nat := 5

/-! ### Retries -/

structure Retry where
  attempts : Nat := 0
  max : Nat
  deriving Repr, DecidableEq

/-- Count a fault; whether the same request may be sent again. -/
def Retry.fail (r : Retry) : Bool × Retry :=
  if r.attempts < r.max then (true, { r with attempts := r.attempts + 1 }) else (false, r)

def Retry.reset (r : Retry) : Retry := { r with attempts := 0 }

/-! ### One step -/

/-- A listing under way: where the next page starts, the faults since the last page, and what
has been put together. -/
structure Pager (α : Type) where
  markers : Markers
  retry : Retry
  merged : Chunk α := {}

inductive Verdict (α : Type) where
  | goOn (pager : Pager α)
  | finish (result : Except Fault (Chunk α))

namespace Plan

variable {α : Type}

def begin (plan : Plan) : Pager α :=
  { markers := plan.start.markers, retry := { max := plan.retryMax } }

def query (plan : Plan) (p : Pager α) : Query :=
  plan.kind.pageQuery plan.base { plan.start with markers := p.markers }

/-- The rule that a page breaks, if it does. -/
def violation? (plan : Plan) (p : Pager α) (page : Chunk α) : Option Violation :=
  if page.truncated then
    if page.next = {} then some (.noNextMarker plan.kind.name)
    else if page.next = p.markers then some (.noAdvance plan.kind.name)
    else none
  else none

def receivePage (plan : Plan) (p : Pager α) (page : Chunk α) : Verdict α :=
  match plan.violation? p page with
  | some v => .finish (.error (.protocol plan.context v))
  | none =>
    match plan.mode with
    | .chunk => .finish (.ok page)
    | .merge =>
      let merged : Chunk α :=
        { items := p.merged.items ++ page.items,
          commonPrefixes := p.merged.commonPrefixes ++ page.commonPrefixes }
      if page.truncated then
        .goOn { markers := page.next, retry := p.retry.reset, merged }
      else .finish (.ok merged)

/-- Take in the answer to the query for the next page. -/
def receive (plan : Plan) (p : Pager α) : Except Fault (Chunk α) → Verdict α
  | .ok page => plan.receivePage p page
  | .error fault =>
    if fault.isTransient then
      match p.retry.fail with
      | (true, retry) => .goOn { p with retry }
      | (false, _) => .finish (.error fault)
    else .finish (.error fault)

/-! ### Whole listings -/

/-- Follow a listing against the answers that come: the queries sent, the answers left over,
and the result if it was reached. -/
def replay (plan : Plan) (p : Pager α) :
    List (Except Fault (Chunk α)) →
      List Query × List (Except Fault (Chunk α)) × Option (Except Fault (Chunk α))
  | [] => ([plan.query p], [], none)
  | r :: rs =>
    match plan.receive p r with
    | .finish result => ([plan.query p], rs, some result)
    | .goOn p' =>
      let (qs, rest, result) := plan.replay p' rs
      (plan.query p :: qs, rest, result)

/-- Follow a listing for at most `budget` answers. -/
def dialogue (plan : Plan) : (budget : Nat) → Pager α →
    Dialogue Query (Except Fault (Chunk α)) (Except Fault (Chunk α))
  | 0, _ => .unfinished
  | n + 1, p =>
    .ask (plan.query p) fun r =>
      match plan.receive p r with
      | .finish result => .done result
      | .goOn p' => plan.dialogue n p'

end Plan

end ObjectStore.Listing
