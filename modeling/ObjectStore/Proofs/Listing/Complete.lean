import ObjectStore.Proofs.Listing.Chunkwise
/-!
# A listing leaves nothing out

A `Collection` is what a server lists: items in an order, each named by markers of its own.  A
page that `Serves` a query holds the next items behind the one that the query's markers name,
and says where to go on if there are more.  On a `Link` to such a server exchanges fail before
pages arrive, in bursts.

**Following the markers gives each item once and in order** (`run_dialogue_of_serves`), as long
as no burst is longer than the faults that are put up with.  What the induction carries is the
place of the pager: its markers are absent or name an item, and what it has put together is what
stands up to there.
-/

namespace ObjectStore

theorem Query.parameters_setOrRemove (q : Query) (name other : String) (v : Option String) :
    (q.setOrRemove name v).parameters.get? other =
      if other = name then v.map some else q.parameters.get? other := by
  cases v with
  | some value => exact Table.get?_insert _ _ _ _
  | none => exact Table.get?_erase _ _ _

namespace Listing

variable {α : Type}

/-! ### Markers in a query -/

/-- The markers that a query carries. -/
def Kind.markersOf (k : Kind) (q : Query) : Markers :=
  { primary := q.get? k.primaryName, secondary := k.secondaryName.bind q.get? }

/-- Whether the two markers travel under different names. -/
def Kind.Separate (k : Kind) : Prop := k.secondaryName ≠ some k.primaryName

instance (k : Kind) : Decidable k.Separate :=
  inferInstanceAs (Decidable (k.secondaryName ≠ some k.primaryName))

theorem Kind.separate_of_mem {k : Kind} (h : k ∈ [objects, versions, uploads, parts]) :
    k.Separate := by
  simp only [List.mem_cons, List.not_mem_nil, or_false] at h
  rcases h with rfl | rfl | rfl | rfl
  · decide
  · decide
  · decide
  · decide

/-- Whether a listing of the kind can send the markers: one of a single marker sends no second. -/
def Kind.Carries (k : Kind) (m : Markers) : Prop := k.secondaryName = none → m.secondary = none

/-- The markers of a page stand in its query as they are, or not at all. -/
theorem Kind.parameters_pageQuery {k : Kind} (hk : k.Separate) (base : Query) (s : PageState) :
    (k.pageQuery base s).parameters.get? k.primaryName = s.markers.primary.map some ∧
      ∀ name, k.secondaryName = some name →
        (k.pageQuery base s).parameters.get? name = s.markers.secondary.map some := by
  rcases hname : k.secondaryName with _ | name
  · simp only [pageQuery, withMarkers, hname, Query.parameters_setOrRemove, if_true, true_and]
    exact fun _ h => nomatch h
  · have hne : k.primaryName ≠ name := by
      rintro rfl
      exact hk hname
    simp only [pageQuery, withMarkers, hname, Query.parameters_setOrRemove, if_true, if_neg hne,
      true_and]
    intro name' h
    cases h
    rw [if_pos rfl]

/-- The markers of a pager arrive with its query, whatever the base query carries. -/
theorem Kind.markersOf_pageQuery {k : Kind} (hk : k.Separate) (base : Query) {s : PageState}
    (h : k.Carries s.markers) : k.markersOf (k.pageQuery base s) = s.markers := by
  have hjoin : ∀ v : Option String, (v.map some).join = v := by
    intro v
    cases v with
    | none => rfl
    | some value => rfl
  obtain ⟨hprimary, hsecondary⟩ := parameters_pageQuery hk base s
  obtain ⟨keyPrefix, delimiter, limit, ⟨primary, secondary⟩⟩ := s
  rcases hname : k.secondaryName with _ | name
  · obtain rfl : secondary = none := h hname
    simp only [markersOf, Query.get?, hprimary, hname, hjoin, Option.bind_none]
  · simp only [markersOf, Query.get?, hprimary, hsecondary name hname, hname, hjoin,
      Option.bind_some]

/-! ### What a server lists -/

/-- Items in an order, each with the markers that name it and no other. -/
structure Collection (k : Kind) (α : Type) where
  items : List α
  marker : α → Markers
  distinct : (items.map marker).Nodup
  named : ∀ a ∈ items, marker a ≠ {}
  carried : ∀ a ∈ items, k.Carries (marker a)

namespace Collection

variable {k : Kind} (c : Collection k α)

/-- The items strictly behind the one that the markers name; all of them without markers. -/
def after (m : Markers) : List α :=
  if m = {} then c.items else (c.items.dropWhile fun a => c.marker a ≠ m).tail

/-- Whether the markers are a place in the collection. -/
def IsPlace (m : Markers) : Prop := m = {} ∨ ∃ a ∈ c.items, c.marker a = m

variable {c}

theorem after_marker {before later : List α} {a : α} (h : c.items = before ++ a :: later) :
    c.after (c.marker a) = later := by
  have hnamed : c.marker a ≠ {} := by
    apply c.named
    simp [h]
  have hbefore : ∀ b ∈ before, decide (c.marker b ≠ c.marker a) = true := by
    intro b hb
    have hdistinct := c.distinct
    rw [h, List.map_append, List.nodup_append] at hdistinct
    have hne := hdistinct.2.2 (c.marker b) (List.mem_map_of_mem hb) (c.marker a) (by simp)
    simpa using hne
  rw [after, if_neg hnamed, h, List.dropWhile_append_of_pos hbefore, List.dropWhile_cons]
  simp

theorem IsPlace.split {m : Markers} (h : c.IsPlace m) :
    (∃ before, c.items = before ++ c.after m) ∧ ∀ a ∈ c.after m, c.marker a ≠ m := by
  rcases h with rfl | ⟨a, ha, rfl⟩
  · have hall : c.after {} = c.items := if_pos rfl
    rw [hall]
    exact ⟨⟨[], rfl⟩, c.named⟩
  · obtain ⟨before, later, hitems⟩ := List.append_of_mem ha
    rw [after_marker hitems]
    constructor
    · exact ⟨before ++ [a], by simp [hitems]⟩
    · intro b hb
      have hdistinct := c.distinct
      rw [hitems, List.map_append, List.nodup_append, List.map_cons, List.nodup_cons] at hdistinct
      intro heq
      apply hdistinct.2.1.1
      rw [← heq]
      exact List.mem_map_of_mem hb

theorem IsPlace.carries {m : Markers} (h : c.IsPlace m) : k.Carries m := by
  rcases h with rfl | ⟨a, ha, rfl⟩
  · intro _
    rfl
  · exact c.carried a ha

/-- Behind the last item of a page are the items that the page left over. -/
theorem IsPlace.next {m : Markers} (h : c.IsPlace m) {size : Nat} {a : α}
    (hlast : ((c.after m).take size).getLast? = some a) :
    c.IsPlace (c.marker a) ∧ c.marker a ≠ {} ∧ c.marker a ≠ m ∧
      c.after (c.marker a) = (c.after m).drop size := by
  obtain ⟨⟨before, hitems⟩, hother⟩ := h.split
  obtain ⟨init, hinit⟩ := List.getLast?_eq_some_iff.1 hlast
  have hafter : c.after m = init ++ a :: (c.after m).drop size := by
    have hsplit := List.take_append_drop size (c.after m)
    rw [hinit, List.append_assoc, List.singleton_append] at hsplit
    exact hsplit.symm
  have hmem : a ∈ c.after m := by
    rw [hafter]
    simp
  have hitem : a ∈ c.items := by
    rw [hitems]
    exact List.mem_append_right _ hmem
  refine ⟨.inr ⟨a, hitem, rfl⟩, c.named a hitem, hother a hmem, ?_⟩
  have hplace : c.items = (before ++ init) ++ a :: (c.after m).drop size := by
    rw [List.append_assoc, ← hafter]
    exact hitems
  exact after_marker hplace

variable (c)

/-- The page for a query: the next items behind its markers, `size` of them if there are as
many, and truncated if there are more. -/
structure Serves (size : Nat) (q : Query) (page : Chunk α) : Prop where
  items : page.items = (c.after (k.markersOf q)).take size
  truncated : page.truncated = decide (size < (c.after (k.markersOf q)).length)
  next : page.truncated = true → page.items.getLast?.map c.marker = some page.next

/-- The plainest page that serves a query. -/
def page (size : Nat) (q : Query) : Chunk α :=
  let items := (c.after (k.markersOf q)).take size
  { items, truncated := size < (c.after (k.markersOf q)).length,
    next := (items.getLast?.map c.marker).getD {} }

theorem serves_page {size : Nat} (h : 0 < size) (q : Query) : c.Serves size q (c.page size q) := by
  refine ⟨rfl, rfl, ?_⟩
  intro htruncated
  have hlt : size < (c.after (k.markersOf q)).length := of_decide_eq_true htruncated
  rcases hlast : ((c.after (k.markersOf q)).take size).getLast? with _ | a
  · rw [List.getLast?_eq_none_iff, List.take_eq_nil_iff] at hlast
    rcases hlast with hzero | hnil
    · omega
    · rw [hnil] at hlt
      exact absurd hlt (Nat.not_lt_zero _)
  · simp only [page, hlast, Option.map_some, Option.getD_some]

end Collection

/-- How many pages of a size hold that many items; there is always one. -/
def pageCount (size items : Nat) : Nat := max 1 ((items + size - 1) / size)

theorem pageCount_of_le {size items : Nat} (hsize : 0 < size) (h : items ≤ size) :
    pageCount size items = 1 := by
  have hlt : (items + size - 1) / size < 2 := by
    rw [Nat.div_lt_iff_lt_mul hsize]
    omega
  rw [pageCount]
  omega

theorem pageCount_of_lt {size items : Nat} (hsize : 0 < size) (h : size < items) :
    pageCount size items = pageCount size (items - size) + 1 := by
  have hsum : items + size - 1 = (items - size + size - 1) + size := by omega
  have hone : 1 ≤ (items - size + size - 1) / size := by
    rw [Nat.le_div_iff_mul_le hsize]
    omega
  rw [pageCount, pageCount, hsum, Nat.add_div_right _ hsize]
  omega

/-! ### Exchanges that fail -/

/-- A way to a server: the faults that come before each of its next pages, and how many pages
have come. -/
structure Link where
  bursts : List (List Fault)
  served : Nat := 0

namespace Link

/-- Fail, or let the page for the query through. -/
def answer (page : Query → Chunk α) (q : Query) : StateM Link (Except Fault (Chunk α)) := fun l =>
  match l.bursts with
  | (f :: burst) :: later => (.error f, { l with bursts := burst :: later })
  | [] :: later => (.ok (page q), { bursts := later, served := l.served + 1 })
  | [] => (.ok (page q), { bursts := [], served := l.served + 1 })

/-- How many exchanges are going to fail. -/
def faults (l : Link) : Nat := l.bursts.flatten.length

/-- Whether each fault to come may be tried again, after the given number of attempts at the
next page. -/
structure Bearable (max attempts : Nat) (l : Link) : Prop where
  transient : ∀ burst ∈ l.bursts, ∀ f ∈ burst, f.isTransient = true
  first : ∀ burst ∈ l.bursts.head?, attempts + burst.length ≤ max
  later : ∀ burst ∈ l.bursts, burst.length ≤ max

/-- An exchange on a link that can be borne fails in a way that may be tried again, or lets the
page through. -/
theorem Bearable.answer {max attempts : Nat} {l : Link} (h : l.Bearable max attempts)
    (serve : Query → Chunk α) (q : Query) :
    (∃ f l', Link.answer serve q l = (.error f, l') ∧ f.isTransient = true ∧ attempts < max ∧
      l'.Bearable max (attempts + 1) ∧ l'.faults + 1 = l.faults ∧ l'.served = l.served) ∨
    (∃ l', Link.answer serve q l = (.ok (serve q), l') ∧
      l'.Bearable max 0 ∧ l'.faults = l.faults ∧ l'.served = l.served + 1) := by
  obtain ⟨htransient, hfirst, hlater⟩ := h
  obtain ⟨bursts, served⟩ := l
  rcases bursts with _ | ⟨_ | ⟨f, burst⟩, later⟩
  · right
    exact ⟨⟨[], served + 1⟩, rfl, ⟨by simp, by simp, by simp⟩, rfl, rfl⟩
  · right
    refine ⟨⟨later, served + 1⟩, rfl, ⟨?_, ?_, ?_⟩, by simp [faults], rfl⟩
    · intro burst hburst
      exact htransient burst (List.mem_cons_of_mem _ hburst)
    · intro burst hburst
      rw [Nat.zero_add]
      exact hlater burst (List.mem_cons_of_mem _ (List.mem_of_mem_head? hburst))
    · intro burst hburst
      exact hlater burst (List.mem_cons_of_mem _ hburst)
  · left
    have hlength := hfirst (f :: burst) rfl
    rw [List.length_cons] at hlength
    have hburst := htransient (f :: burst) List.mem_cons_self
    refine ⟨f, ⟨burst :: later, served⟩, rfl, hburst f List.mem_cons_self, by omega,
      ⟨?_, ?_, ?_⟩, ?_, rfl⟩
    · intro b hb g hg
      rcases List.mem_cons.1 hb with rfl | hrest
      · exact hburst g (List.mem_cons_of_mem _ hg)
      · exact htransient b (List.mem_cons_of_mem _ hrest) g hg
    · intro b hb
      obtain rfl : burst = b := by simpa using hb
      omega
    · intro b hb
      rcases List.mem_cons.1 hb with rfl | hrest
      · omega
      · exact hlater b (List.mem_cons_of_mem _ hrest)
    · simp only [faults, List.flatten_cons, List.length_append, List.length_cons]
      omega

end Link

namespace Plan

/-! ### One exchange -/

theorem run_dialogue_succ (plan : Plan) (p : Pager α) (budget : Nat) (page : Query → Chunk α)
    (l : Link) :
    ((plan.dialogue (budget + 1) p).run (Link.answer page)).run l =
      match plan.receive p (Link.answer page (plan.query p) l).1 with
      | .finish result => (some result, (Link.answer page (plan.query p) l).2)
      | .goOn p' =>
        ((plan.dialogue budget p').run (Link.answer page)).run
          (Link.answer page (plan.query p) l).2 := by
  rw [dialogue, Dialogue.run]
  show StateT.run (Dialogue.run (Link.answer page)
    (match plan.receive p (Link.answer page (plan.query p) l).1 with
      | .finish result => .done result
      | .goOn p' => plan.dialogue budget p')) (Link.answer page (plan.query p) l).2 = _
  rcases plan.receive p (Link.answer page (plan.query p) l).1 with p' | result
  · rfl
  · rfl

theorem receive_transient {plan : Plan} {m : Markers} {attempts : Nat} {merged : Chunk α}
    {f : Fault} {max : Nat} (htransient : f.isTransient = true) (h : attempts < max) :
    plan.receive ⟨m, ⟨attempts, max⟩, merged⟩ (.error f) =
      .goOn ⟨m, ⟨attempts + 1, max⟩, merged⟩ := by
  simp only [receive, htransient, if_true, Retry.fail, if_pos h]

section

variable {plan : Plan} {c : Collection plan.kind α} {size : Nat} {m : Markers} {retry : Retry}
  {merged page : Chunk α}

theorem receive_lastPage (hmode : plan.mode = .merge) (htruncated : page.truncated = false) :
    plan.receive ⟨m, retry, merged⟩ (.ok page) = .finish (.ok (merged.append page)) := by
  simp only [receive, receivePage, violation?, htruncated, hmode, Bool.false_eq_true, if_false]
  rfl

/-- Each other page moves the pager on: the rules against standing still are not broken. -/
theorem receive_page (hmode : plan.mode = .merge) (htruncated : page.truncated = true)
    (hnamed : page.next ≠ {}) (hadvance : page.next ≠ m) :
    plan.receive ⟨m, retry, merged⟩ (.ok page) =
      .goOn ⟨page.next, retry.reset, merged.append page⟩ := by
  simp only [receive, receivePage, violation?, htruncated, hmode, if_true, if_neg hnamed,
    if_neg hadvance]
  rfl

theorem markersOf_query (hkind : plan.kind.Separate) (h : c.IsPlace m) :
    plan.kind.markersOf (plan.query ⟨m, retry, merged⟩) = m :=
  Kind.markersOf_pageQuery hkind plan.base (s := { plan.start with markers := m }) h.carries

/-- What a pager at a place makes of the page that serves its query. -/
theorem receive_served (hkind : plan.kind.Separate) (hmode : plan.mode = .merge)
    (hsize : 0 < size) (h : c.IsPlace m)
    (hpage : c.Serves size (plan.query ⟨m, retry, merged⟩) page) :
    (pageCount size (c.after m).length = 1 ∧ page.items = c.after m ∧
      plan.receive ⟨m, retry, merged⟩ (.ok page) = .finish (.ok (merged.append page))) ∨
    (∃ next, c.IsPlace next ∧ page.items ++ c.after next = c.after m ∧
      pageCount size (c.after m).length = pageCount size (c.after next).length + 1 ∧
      plan.receive ⟨m, retry, merged⟩ (.ok page) =
        .goOn ⟨next, retry.reset, merged.append page⟩) := by
  obtain ⟨hitems, htruncated, hnext⟩ := hpage
  rw [markersOf_query hkind h] at hitems htruncated
  by_cases hmore : size < (c.after m).length
  · right
    rw [decide_eq_true hmore] at htruncated
    obtain ⟨a, ha, hmarker⟩ := Option.map_eq_some_iff.1 (hnext htruncated)
    rw [hitems] at ha
    obtain ⟨hplace, hnamed, hadvance, hafter⟩ := h.next ha
    rw [hmarker] at hplace hnamed hadvance hafter
    refine ⟨page.next, hplace, ?_, ?_, receive_page hmode htruncated hnamed hadvance⟩
    · rw [hafter, hitems, List.take_append_drop]
    · rw [hafter, List.length_drop, pageCount_of_lt hsize hmore]
  · left
    rw [decide_eq_false hmore] at htruncated
    refine ⟨pageCount_of_le hsize (Nat.le_of_not_lt hmore), ?_, receive_lastPage hmode htruncated⟩
    rw [hitems, List.take_of_length_le (Nat.le_of_not_lt hmore)]

/-! ### The whole listing -/

/-- A pager at a place comes to the end of the collection. -/
theorem run_dialogue_of_isPlace (merged : Chunk α) (hkind : plan.kind.Separate)
    (hmode : plan.mode = .merge) (hsize : 0 < size) {serve : Query → Chunk α}
    (hserve : ∀ q, c.IsPlace (plan.kind.markersOf q) → c.Serves size q (serve q))
    {budget attempts : Nat} {l : Link} (h : c.IsPlace m)
    (hbearable : l.Bearable plan.retryMax attempts)
    (hbudget : l.faults + pageCount size (c.after m).length ≤ budget) :
    ∃ listing l', ((plan.dialogue budget ⟨m, ⟨attempts, plan.retryMax⟩, merged⟩).run
        (Link.answer serve)).run l = (some (.ok listing), l') ∧
      listing.items = merged.items ++ c.after m ∧ listing.truncated = false ∧
      listing.next = {} ∧ l'.served = l.served + pageCount size (c.after m).length := by
  -- each exchange, failed or not, takes one from the budget, and a page moves the pager to the
  -- place behind its last item
  induction budget generalizing merged m attempts l with
  | zero =>
    have hone : 1 ≤ pageCount size (c.after m).length := Nat.le_max_left _ _
    omega
  | succ budget ih =>
    rw [run_dialogue_succ]
    rcases hbearable.answer serve (plan.query ⟨m, ⟨attempts, plan.retryMax⟩, merged⟩) with
      ⟨f, l', hanswer, htransient, hcap, hrest, hfaults, hserved⟩ |
        ⟨l', hanswer, hrest, hfaults, hserved⟩
    · have hfewer : l'.faults + pageCount size (c.after m).length ≤ budget := by omega
      rw [hanswer, receive_transient htransient hcap, ← hserved]
      exact ih merged h hrest hfewer
    · have hpage := hserve (plan.query ⟨m, ⟨attempts, plan.retryMax⟩, merged⟩) (by
        rw [markersOf_query hkind h]
        exact h)
      rw [hanswer]
      rcases receive_served hkind hmode hsize h hpage with
        ⟨hcount, hitems, hfinish⟩ | ⟨next, hplace, hitems, hcount, hgoOn⟩
      · rw [hfinish, hcount, ← hserved]
        refine ⟨_, _, rfl, ?_, rfl, rfl, rfl⟩
        rw [Chunk.append, hitems]
      · rw [hgoOn]
        have hfewer : l'.faults + pageCount size (c.after next).length ≤ budget := by omega
        obtain ⟨listing, l'', hrun, hlisting, htruncated, hnone, hl''⟩ :=
          ih (merged.append (serve _)) hplace hrest hfewer
        refine ⟨listing, l'', hrun, ?_, htruncated, hnone, by omega⟩
        rw [hlisting, Chunk.append, List.append_assoc, hitems]

end

/-- **A listing leaves nothing out and lists nothing twice.** On a link whose bursts of faults
can be put up with, following the markers from a place in the collection gives just the items
behind it, in their order, from as many pages as hold them. -/
theorem run_dialogue_of_serves {plan : Plan} {c : Collection plan.kind α} {size budget : Nat}
    {serve : Query → Chunk α} {bursts : List (List Fault)} (hkind : plan.kind.Separate)
    (hmode : plan.mode = .merge) (hsize : 0 < size)
    (hserve : ∀ q, c.IsPlace (plan.kind.markersOf q) → c.Serves size q (serve q))
    (hstart : c.IsPlace plan.start.markers)
    (hbursts : ∀ burst ∈ bursts,
      burst.length ≤ plan.retryMax ∧ ∀ f ∈ burst, f.isTransient = true)
    (hbudget : bursts.flatten.length +
      pageCount size (c.after plan.start.markers).length ≤ budget) :
    ∃ listing l, ((plan.dialogue budget plan.begin).run (Link.answer serve)).run ⟨bursts, 0⟩ =
        (some (.ok listing), l) ∧
      listing.items = c.after plan.start.markers ∧ listing.truncated = false ∧
      listing.next = {} ∧ l.served = pageCount size (c.after plan.start.markers).length := by
  have hbearable : (⟨bursts, 0⟩ : Link).Bearable plan.retryMax 0 := by
    refine ⟨fun burst hburst => (hbursts burst hburst).2, ?_, fun burst hburst =>
      (hbursts burst hburst).1⟩
    intro burst hburst
    rw [Nat.zero_add]
    exact (hbursts burst (List.mem_of_mem_head? hburst)).1
  obtain ⟨listing, l, hrun, hitems, htruncated, hnext, hserved⟩ :=
    run_dialogue_of_isPlace {} hkind hmode hsize hserve hstart hbearable hbudget
  refine ⟨listing, l, hrun, hitems, htruncated, hnext, ?_⟩
  rw [hserved]
  exact Nat.zero_add _

/-- Four versions of one object behind the first, two to a page, with a fault before the first
page and two before the second. -/
theorem run_dialogue_four_versions :
    ∃ c : Collection Kind.versions String, c.items = ["v1", "v2", "v3", "v4", "v5"] ∧
      ∃ listing l, ((Plan.dialogue { kind := .versions, retryMax := 2, start :=
              { markers := { primary := some "a", secondary := some "v1" } } } 100
            (Plan.begin { kind := .versions, retryMax := 2, start :=
              { markers := { primary := some "a", secondary := some "v1" } } })).run
          (Link.answer (c.page 2))).run
          ⟨[[.transport .connectionReset],
            [.transport .connectionReset, .transport .connectionReset]], 0⟩ =
        (some (.ok listing), l) ∧ listing.items = ["v2", "v3", "v4", "v5"] ∧ l.served = 2 := by
  let c : Collection Kind.versions String :=
    { items := ["v1", "v2", "v3", "v4", "v5"],
      marker := fun v => { primary := some "a", secondary := some v },
      distinct := by decide, named := by simp, carried := by simp [Kind.Carries, Kind.versions] }
  let plan : Plan := { kind := .versions, retryMax := 2, start :=
    { markers := { primary := some "a", secondary := some "v1" } } }
  let bursts : List (List Fault) := [[.transport .connectionReset],
    [.transport .connectionReset, .transport .connectionReset]]
  have hkind : plan.kind.Separate := by decide
  have hserve : ∀ q, c.IsPlace (plan.kind.markersOf q) → c.Serves 2 q (c.page 2 q) :=
    fun q _ => c.serves_page (by decide) q
  have hstart : c.IsPlace plan.start.markers := .inr ⟨"v1", by simp [c], rfl⟩
  have hbursts : ∀ burst ∈ bursts,
      burst.length ≤ plan.retryMax ∧ ∀ f ∈ burst, f.isTransient = true := by
    simp [bursts, plan, Fault.isTransient]
  have hafter : c.after plan.start.markers = ["v2", "v3", "v4", "v5"] := by decide
  have hbudget : bursts.flatten.length +
      pageCount 2 (c.after plan.start.markers).length ≤ 100 := by decide
  obtain ⟨listing, l, hrun, hitems, _, _, hserved⟩ :=
    run_dialogue_of_serves hkind rfl (by decide) hserve hstart hbursts hbudget
  refine ⟨c, rfl, listing, l, hrun, ?_, ?_⟩
  · rw [hitems, hafter]
  · rw [hserved, hafter]
    decide

end Plan

end Listing

end ObjectStore
