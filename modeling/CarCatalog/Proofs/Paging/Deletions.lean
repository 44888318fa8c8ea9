import CarCatalog.Proofs.Paging.Slices

/-!
# Deleting from a paged list

A `Listed` is a list on a server and the view of one of its pages, with the requests that are under
way; they are served in the order they were sent.  A deletion carries the number of rows that its page
keeps, counted when it was asked for.  By the time it succeeds other deletions may have succeeded, so
the count may be wrong, and a page may be emptied without being left.

It is left as long as a click that might empty the last page spares one of its rows (`Listed.Spares`):

    s.Settled → s.Steps s' → s'.requests = [] → s'.Settled                     (settled_of_steps)
-/

namespace CarCatalog

/-- What a view of a list asks the server for. -/
inductive ListRequest
  | load (query : PageQuery)
  | delete (id : Int64) (remaining : Nat)
  deriving DecidableEq, Repr

/-- A list that a server keeps, and the view of one of its pages. -/
structure Listed where
  pager : Pager
  /-- The ids of the rows that are shown. -/
  rows : Loadable (Page Int64)
  /-- The requests without an answer, in the order they were sent. -/
  requests : List ListRequest
  items : List Int64
  deriving DecidableEq, Repr

namespace Listed

open Paging

/-- A row may be deleted without more ado: it is the only one shown, or no row of the last page, or the
last page is the first, or another row is shown whose deletion has not been asked for. -/
def Spares (s : Listed) (id : Int64) : Prop :=
  s.rows.items = [id] ∨ s.pager.hasPrevious = false ∨ s.pager.hasNext = true ∨
    ∃ other ∈ s.rows.items, other ≠ id ∧ ∀ remaining, .delete other remaining ∉ s.requests

/-- What happens to a view and its list. -/
inductive Step (s : Listed) : Listed → Prop
  | idle : Step s s
  | clicked {id : Int64} (shown : id ∈ s.rows.items) (spares : s.Spares id) :
    Step s { s with requests := s.requests ++ [.delete id (s.rows.items.length - 1)] }
  | loaded {q : PageQuery} {more : List ListRequest} {page : Page Int64}
    (first : s.requests = .load q :: more) (serves : Serves s.items q page) :
    Step s { s with pager := s.pager.observe page.info, rows := .ready page, requests := more }
  | deleted {id : Int64} {remaining : Nat} {more : List ListRequest}
    (first : s.requests = .delete id remaining :: more) :
    Step s {
      pager := s.pager.settle remaining
      rows := .loading
      requests := more ++ [.load (s.pager.settle remaining).query]
      items := s.items.erase id }
  | refused {id : Int64} {remaining : Nat} {more : List ListRequest}
    (first : s.requests = .delete id remaining :: more) (absent : id ∉ s.items) :
    Step s { s with requests := more }

inductive Steps (s : Listed) : Listed → Prop
  | none : Steps s s
  | step {s' s'' : Listed} (before : Steps s s') (last : s'.Step s'') : Steps s s''

/-- Nothing is under way, and the page that is shown is one of the list. -/
structure Settled (s : Listed) : Prop where
  nodup : s.items.Nodup
  idle : s.requests = []
  shows : ∃ page, s.rows = .ready page ∧ s.pager.Shows s.items page
  range : s.pager.page ≤ s.pager.totalPages

/-! ## The invariant -/

/-- The requests of some loads and of some deletions. -/
def loads (qs : List PageQuery) : List ListRequest := qs.map .load

def deletions (ds : List (Int64 × Nat)) : List ListRequest := ds.map fun d => .delete d.1 d.2

/-- What holds at all times. -/
structure Sound (s : Listed) : Prop where
  nodup : s.items.Nodup
  queries : ∀ q, .load q ∈ s.requests → q.perPage.toNat = s.pager.size ∧ 1 ≤ q.page.toNat

/-- When the deletions have been served a page is one of the list: it is one of what they leave, or it
starts where that ends and one of them was alone on its page. -/
structure Lands (page size : Nat) (items : List Int64) (ds : List (Int64 × Nat)) : Prop where
  agree : ∀ d ∈ ds, ∀ d' ∈ ds, d.1 = d'.1 → d.2 = d'.2
  range :
    let before := (page - 1) * size
    let left := (rest items (ds.map Prod.fst)).length
    page = 1 ∨ before < left ∨ before ≤ left ∧ ∃ d ∈ ds, d.2 = 0 ∧ d.1 ∈ items

/-- Some row of the last page is not to be deleted, or one that is was alone on its page. -/
def HasSpare (size : Nat) (items : List Int64) (ds : List (Int64 × Nat)) : Prop :=
  (∃ d ∈ ds, d.2 = 0) ∨ ∃ y ∈ slice items size (pageCount items size), ∀ d ∈ ds, d.1 ≠ y

/-- The loads are in front.  When they have been served the page `last` is shown.  It is one of the list,
the deletions behind them are from it or later pages, and the last page has a row to spare. -/
structure Serving (s : Listed) (qs : List PageQuery) (ds : List (Int64 × Nat)) (last : Nat) : Prop where
  requests : s.requests = loads qs ++ deletions ds
  target : (qs.getLast?.map fun q => q.page.toNat).getD s.pager.number = last
  first : 1 ≤ last
  ahead : last ≤ s.pager.number ∧ ∀ q ∈ qs, last ≤ q.page.toNat
  range : last = 1 ∨ (last - 1) * s.pager.size < s.items.length
  rows : (∃ page, s.rows = .ready page ∧ s.pager.Shows s.items page) ∨
    s.rows = .loading ∧ ds = [] ∧ qs ≠ []
  pages : ∀ d ∈ ds, ∃ page, last ≤ page ∧ d.1 ∈ slice s.items s.pager.size page ∧
    d.2 = (slice s.items s.pager.size page).length - 1
  spared : last = 1 ∨ HasSpare s.pager.size s.items ds

/-- The deletions are in front, and the loads that follow those that have succeeded come last. -/
structure Draining (s : Listed) (ds : List (Int64 × Nat)) (qs : List PageQuery) : Prop where
  requests : s.requests = deletions ds ++ loads qs
  rows : s.rows = .loading
  target : qs.getLast?.map (fun q => q.page.toNat) = some s.pager.number
  ahead : ∀ q ∈ qs, s.pager.number ≤ q.page.toNat
  lands : Lands s.pager.number s.pager.size s.items ds

structure Inv (s : Listed) : Prop where
  sound : s.Sound
  phase : (∃ qs ds last, s.Serving qs ds last) ∨ ∃ ds qs, s.Draining ds qs

/-! ## Lemmas -/

/-! ### Deletions in front -/

section

variable {page size : Nat} {items : List Int64} {d : Int64 × Nat} {ds : List (Int64 × Nat)}

theorem lands_refused (h : Lands page size items (d :: ds)) (absent : d.1 ∉ items) :
    Lands page size items ds := by
  refine ⟨fun x hx y hy => h.agree x (.tail _ hx) y (.tail _ hy), ?_⟩
  have range := h.range
  rw [List.map_cons, rest_cons_of_notMem absent] at range
  rcases range with first | inside | ⟨edge, e, he, alone, present⟩
  · exact .inl first
  · exact .inr (.inl inside)
  · rcases List.mem_cons.mp he with rfl | he
    · exact absurd present absent
    · exact .inr (.inr ⟨edge, e, he, alone, present⟩)

theorem lands_deleted (nodup : items.Nodup) (positive : 0 < size)
    (h : Lands page size items (d :: ds)) :
    Lands (if d.2 = 0 then max (page - 1) 1 else page) size (items.erase d.1) ds := by
  refine ⟨fun x hx y hy => h.agree x (.tail _ hx) y (.tail _ hy), ?_⟩
  rw [rest_erase nodup]
  have range := h.range
  rw [List.map_cons] at range
  generalize (rest items (d.1 :: ds.map Prod.fst)).length = left at range ⊢
  split
  · -- a page is taken off, and the one before starts earlier
    by_cases second : page ≤ 2
    · exact .inl (by omega)
    · obtain ⟨p, rfl⟩ : ∃ p, page = p + 3 := ⟨page - 3, by omega⟩
      refine .inr (.inl ?_)
      have step : (p + 2) * size = (p + 1) * size + size := Nat.succ_mul _ _
      rw [show p + 3 - 1 = p + 2 from rfl, step] at range
      show (p + 1) * size < left
      omega
  · next several =>
    rcases range with first | inside | ⟨edge, e, he, alone, present⟩
    · exact .inl first
    · exact .inr (.inl inside)
    · have other : e.1 ≠ d.1 := fun same =>
        several ((h.agree e he d (.head _) same) ▸ alone)
      rcases List.mem_cons.mp he with rfl | he
      · exact absurd rfl other
      · exact .inr (.inr ⟨edge, e, he, alone, (List.mem_erase_of_ne other).mpr present⟩)

theorem range_of_lands (h : Lands page size items []) :
    page = 1 ∨ (page - 1) * size < items.length := by
  rcases h.range with first | inside | ⟨-, e, he, -⟩
  · exact .inl first
  · rw [List.map_nil, rest_nil] at inside
    exact .inr inside
  · cases he

end

variable {s : Listed} {qs : List PageQuery} {ds : List (Int64 × Nat)} {last : Nat}

/-- Whatever the deletions of such a page, it lands. -/
theorem lands_of_serving (nodup : s.items.Nodup) (h : s.Serving [] ds last) :
    Lands s.pager.number s.pager.size s.items ds := by
  have target : s.pager.number = last := h.target
  rw [target]
  refine ⟨fun d hd d' hd' same => ?_, ?_⟩
  · obtain ⟨page, le, on, count⟩ := h.pages d hd
    obtain ⟨page', le', on', count'⟩ := h.pages d' hd'
    have one := Nat.le_trans h.first le
    rw [count, count', slice_unique nodup one (Nat.le_trans h.first le') on (same ▸ on')]
  · have behind : ∀ y ∈ ds.map Prod.fst, y ∈ s.items.drop ((last - 1) * s.pager.size) := by
      intro y hy
      obtain ⟨d, hd, rfl⟩ := List.mem_map.mp hy
      obtain ⟨page, le, on, -⟩ := h.pages d hd
      exact mem_drop_of_mem_slice on le
    rcases h.range with first | inside
    · exact .inl first
    · have le := Nat.le_of_lt inside
      rcases h.spared with first | ⟨d, hd, alone⟩ | ⟨y, hy, spared⟩
      · exact .inl first
      · obtain ⟨page, -, on, -⟩ := h.pages d hd
        exact .inr (.inr ⟨le_length_rest nodup le behind, d, hd, alone, mem_of_mem_slice on⟩)
      · have count := (le_pageCount_iff s.pager.size_pos h.first).mpr inside
        refine .inr (.inl (lt_length_rest nodup le behind (mem_drop_of_mem_slice hy count) ?_))
        intro gone
        obtain ⟨d, hd, same⟩ := List.mem_map.mp gone
        exact spared d hd same

/-- A list that has any page has a row on its last one. -/
theorem hasSpare_nil {size : Nat} {items : List Int64} {n : Nat} (positive : 0 < size)
    (inside : n < items.length) : HasSpare size items [] := by
  obtain ⟨y, hy⟩ :=
    exists_mem_last positive (List.ne_nil_of_length_pos (Nat.zero_lt_of_lt inside))
  exact .inr ⟨y, hy, nofun⟩

/-- Once no deletion is left. -/
theorem serving_of_draining (h : s.Draining [] qs) : s.Serving qs [] s.pager.number where
  requests := h.requests.trans (List.append_nil _).symm
  target := by rw [h.target, Option.getD_some]
  first := s.pager.number_pos
  ahead := ⟨Nat.le_refl _, h.ahead⟩
  range := range_of_lands h.lands
  rows := .inr ⟨h.rows, rfl, fun none => by
    have target := h.target
    rw [none] at target
    cases target⟩
  pages := nofun
  spared := (range_of_lands h.lands).imp_right (hasSpare_nil s.pager.size_pos)

/-- The first deletion succeeds. -/
theorem draining_deleted (nodup : s.items.Nodup) {d : Int64 × Nat}
    (ahead : ∀ q ∈ qs, s.pager.number ≤ q.page.toNat)
    (lands : Lands s.pager.number s.pager.size s.items (d :: ds)) :
    Draining {
      pager := s.pager.settle d.2
      rows := .loading
      requests := (deletions ds ++ loads qs) ++ [.load (s.pager.settle d.2).query]
      items := s.items.erase d.1 } ds (qs ++ [(s.pager.settle d.2).query]) where
  requests := by rw [List.append_assoc, loads, loads, List.map_append]; rfl
  rows := rfl
  target := by rw [List.getLast?_concat]; rfl
  ahead q hq := by
    rcases List.mem_append.mp hq with hq | hq
    · refine Nat.le_trans ?_ (ahead q hq)
      have first := s.pager.number_pos
      show (s.pager.settle d.2).number ≤ _
      rw [Pager.number_settle]
      split
      · omega
      · exact Nat.le_refl _
    · rw [List.mem_singleton.mp hq]
      exact Nat.le_refl _
  lands := by
    have lands := lands_deleted nodup s.pager.size_pos lands
    rwa [← Pager.number_settle, ← Pager.size_settle s.pager d.2] at lands

theorem draining_refused {d : Int64 × Nat} (h : s.Draining (d :: ds) qs) (absent : d.1 ∉ s.items) :
    Draining { s with requests := deletions ds ++ loads qs } ds qs :=
  ⟨rfl, h.rows, h.target, h.ahead, lands_refused h.lands absent⟩

/-- The first load is served. -/
theorem serving_loaded (sound : s.Sound) {q : PageQuery} {page : Page Int64}
    (h : s.Serving (q :: qs) ds last) (serves : Serves s.items q page) :
    Serving { s with
      pager := s.pager.observe page.info
      rows := .ready page
      requests := loads qs ++ deletions ds } qs ds last := by
  obtain ⟨size, first⟩ := sound.queries q (by rw [h.requests]; exact .head _)
  obtain ⟨shows, number⟩ := Pager.shows_observe serves size first
  refine ⟨rfl, ?_, h.first, ?_, h.range, .inl ⟨page, rfl, shows⟩, h.pages, h.spared⟩
  · show (qs.getLast?.map fun q => q.page.toNat).getD (s.pager.observe page.info).number = last
    have target := h.target
    rw [number]
    cases qs with
    | nil => exact target
    | cons q' qs =>
      rw [List.getLast?_cons_cons] at target
      cases hl : (q' :: qs).getLast? with
      | none => exact absurd (List.getLast?_eq_none_iff.mp hl) (List.cons_ne_nil _ _)
      | some l =>
        rw [hl] at target
        exact target
  · refine ⟨?_, fun q' hq' => h.ahead.2 q' (.tail _ hq')⟩
    show last ≤ (s.pager.observe page.info).number
    rw [number]
    exact h.ahead.2 q (.head _)

/-- A page that has a row is one of the list. -/
theorem le_pageCount_of_mem {x : Int64} (hx : x ∈ slice s.items s.pager.size s.pager.number) :
    s.pager.number ≤ pageCount s.items s.pager.size := by
  obtain ⟨i, from_, -, hi⟩ := mem_slice_iff.mp hx
  exact (le_pageCount_iff s.pager.size_pos s.pager.number_pos).mpr
    (Nat.lt_of_le_of_lt from_ (List.getElem?_eq_some_iff.mp hi).1)

theorem lt_pageCount_of_hasNext {page : Page Int64} (shows : s.pager.Shows s.items page)
    (next : s.pager.hasNext = true) : s.pager.number < pageCount s.items s.pager.size := by
  have lt : s.pager.page.toNat < s.pager.totalPages.toNat :=
    UInt32.lt_iff_toNat_lt.mp (of_decide_eq_true next)
  have positive := shows.positive
  rw [shows.totalPages_eq] at lt
  rw [Pager.number_eq]
  omega

/-- A click on a row leaves some row of the last page to spare, or a deletion that empties its page. -/
theorem spared_clicked (sound : s.Sound) (h : s.Serving qs ds last) {page : Page Int64}
    (shows : s.pager.Shows s.items page) {id : Int64}
    (data : s.rows.items = slice s.items s.pager.size s.pager.number)
    (shown : id ∈ slice s.items s.pager.size s.pager.number) (spares : s.Spares id) :
    last = 1 ∨ HasSpare s.pager.size s.items (ds ++ [(id, s.rows.items.length - 1)]) := by
  generalize hds : ds ++ [(id, s.rows.items.length - 1)] = ds'
  have spare : ∀ {y}, (∀ d ∈ ds, d.1 ≠ y) → id ≠ y → ∀ d ∈ ds', d.1 ≠ y := by
    intro y old new
    exact hds ▸ List.forall_mem_append.mpr ⟨old, List.forall_mem_singleton.mpr new⟩
  have exists_page := le_pageCount_of_mem shown
  -- what was spared before is not on this page
  have earlier : s.pager.number < pageCount s.items s.pager.size →
      last = 1 ∨ HasSpare s.pager.size s.items ds' := fun lt => by
    rcases h.spared with first | ⟨d, hd, alone⟩ | ⟨y, hy, spared⟩
    · exact .inl first
    · exact .inr (.inl ⟨d, hds ▸ List.mem_append_left _ hd, alone⟩)
    · refine .inr (.inr ⟨y, hy, spare spared fun same => Nat.ne_of_lt lt ?_⟩)
      exact slice_unique sound.nodup s.pager.number_pos
        (Nat.le_trans s.pager.number_pos exists_page) shown (same ▸ hy)
  rcases spares with single | first | next | ⟨other, row, ne, unasked⟩
  · refine .inr (.inl ⟨_, hds ▸ List.mem_append_right _ (.head _), ?_⟩)
    rw [single]
    rfl
  · refine .inl (Nat.le_antisymm (Nat.le_trans h.ahead.1 (Nat.le_of_not_lt fun lt => ?_)) h.first)
    rw [s.pager.hasPrevious_iff.mpr lt] at first
    cases first
  · exact earlier (lt_pageCount_of_hasNext shows next)
  · rcases Nat.lt_or_eq_of_le exists_page with lt | last
    · exact earlier lt
    · refine .inr (.inr ⟨other, last ▸ data ▸ row, spare (fun d hd same => ?_) ne.symm⟩)
      refine unasked d.2 ?_
      rw [h.requests, ← same]
      exact List.mem_append_right _ (List.mem_map.mpr ⟨d, hd, rfl⟩)

/-- A row that is shown is clicked. -/
theorem serving_clicked (sound : s.Sound) (h : s.Serving qs ds last) {id : Int64}
    (shown : id ∈ s.rows.items) (spares : s.Spares id) :
    Serving { s with requests := s.requests ++ [.delete id (s.rows.items.length - 1)] } qs
      (ds ++ [(id, s.rows.items.length - 1)]) last := by
  rcases h.rows with ⟨page, ready, shows⟩ | ⟨loading, -⟩
  · have data : s.rows.items = slice s.items s.pager.size s.pager.number := by
      rw [ready]
      exact shows.serves.data
    rw [data] at shown
    refine ⟨?_, h.target, h.first, h.ahead, h.range, .inl ⟨page, ready, shows⟩, ?_, ?_⟩
    · show s.requests ++ _ = _
      rw [h.requests, List.append_assoc, deletions, deletions, List.map_append]
      rfl
    · intro d hd
      rcases List.mem_append.mp hd with hd | hd
      · exact h.pages d hd
      · rw [List.mem_singleton.mp hd, data]
        exact ⟨s.pager.number, h.ahead.1, shown, rfl⟩
    · exact spared_clicked sound h shows data shown spares
  · rw [loading] at shown
    cases shown

/-! ### One step -/

theorem sound_step {s' : Listed} (sound : s.Sound) (step : s.Step s') : s'.Sound := by
  cases step with
  | idle => exact sound
  | clicked =>
    refine ⟨sound.nodup, fun q hq => sound.queries q ?_⟩
    rcases List.mem_append.mp hq with hq | hq
    · exact hq
    · cases List.mem_singleton.mp hq
  | loaded first => exact ⟨sound.nodup, fun q hq => sound.queries q (first ▸ .tail _ hq)⟩
  | @deleted id remaining more first =>
    refine ⟨sound.nodup.erase id, fun q hq => ?_⟩
    show q.perPage.toNat = (s.pager.settle remaining).size ∧ _
    rw [Pager.size_settle]
    rcases List.mem_append.mp hq with hq | hq
    · exact sound.queries q (first ▸ .tail _ hq)
    · cases List.mem_singleton.mp hq
      exact ⟨s.pager.size_settle remaining, (s.pager.settle remaining).number_pos⟩
  | refused first => exact ⟨sound.nodup, fun q hq => sound.queries q (first ▸ .tail _ hq)⟩

theorem serving_step {s' : Listed} (sound : s.Sound) (h : s.Serving qs ds last)
    (step : s.Step s') : s'.Inv := by
  refine ⟨sound_step sound step, ?_⟩
  cases step with
  | idle => exact .inl ⟨qs, ds, last, h⟩
  | clicked shown spares => exact .inl ⟨qs, _, last, serving_clicked sound h shown spares⟩
  | @loaded q more page first serves =>
    -- the first request is a load only if there is one
    cases qs with
    | cons q' qs =>
      obtain ⟨same, rfl⟩ := List.cons.inj (first.symm.trans h.requests)
      cases same
      exact .inl ⟨qs, ds, last, serving_loaded sound h serves⟩
    | nil => cases ds <;> cases first.symm.trans h.requests
  | @deleted id remaining more first =>
    cases qs with
    | cons q' qs => cases first.symm.trans h.requests
    | nil =>
      cases ds with
      | nil => cases first.symm.trans h.requests
      | cons d ds =>
        obtain ⟨same, rfl⟩ := List.cons.inj (first.symm.trans h.requests)
        cases same
        have ahead : ∀ q ∈ ([] : List PageQuery), s.pager.number ≤ q.page.toNat := nofun
        have drains := draining_deleted sound.nodup ahead (lands_of_serving sound.nodup h)
        rw [show deletions ds ++ loads [] = deletions ds from List.append_nil _] at drains
        exact .inr ⟨ds, _, drains⟩
  | @refused id remaining more first absent =>
    cases qs with
    | cons q' qs => cases first.symm.trans h.requests
    | nil =>
      cases ds with
      | nil => cases first.symm.trans h.requests
      | cons d ds =>
        obtain ⟨same, -⟩ := List.cons.inj (first.symm.trans h.requests)
        cases same
        obtain ⟨page, -, on, -⟩ := h.pages d (.head _)
        exact absurd (mem_of_mem_slice on) absent

theorem draining_step {s' : Listed} (sound : s.Sound) {d : Int64 × Nat}
    (h : s.Draining (d :: ds) qs) (step : s.Step s') : s'.Inv := by
  refine ⟨sound_step sound step, ?_⟩
  cases step with
  | idle => exact .inr ⟨_, qs, h⟩
  | clicked shown =>
    rw [h.rows] at shown
    cases shown
  | loaded first => cases first.symm.trans h.requests
  | deleted first =>
    obtain ⟨same, rfl⟩ := List.cons.inj (first.symm.trans h.requests)
    cases same
    exact .inr ⟨ds, _, draining_deleted sound.nodup h.ahead h.lands⟩
  | refused first absent =>
    obtain ⟨same, rfl⟩ := List.cons.inj (first.symm.trans h.requests)
    cases same
    exact .inr ⟨ds, qs, draining_refused h absent⟩

theorem inv_step {s' : Listed} (h : s.Inv) (step : s.Step s') : s'.Inv := by
  rcases h.phase with ⟨qs, ds, last, serving⟩ | ⟨ds, qs, draining⟩
  · exact serving_step h.sound serving step
  · cases ds with
    | nil => exact serving_step h.sound (serving_of_draining draining) step
    | cons d ds => exact draining_step h.sound draining step

theorem inv_steps {s' : Listed} (h : s.Inv) (steps : s.Steps s') : s'.Inv := by
  induction steps with
  | none => exact h
  | step _ last ih => exact inv_step ih last

/-! ### When nothing is under way -/

/-- The page of a pager is one of the list. -/
theorem range_iff {page : Page Int64} (shows : s.pager.Shows s.items page) :
    s.pager.page ≤ s.pager.totalPages ↔
      s.pager.number = 1 ∨ (s.pager.number - 1) * s.pager.size < s.items.length := by
  have number : s.pager.page.toNat = s.pager.number := by
    rw [Pager.number_eq, Nat.max_eq_left shows.positive]
  rw [UInt32.le_iff_toNat_le, shows.totalPages_eq, number, ← le_pageCount_iff s.pager.size_pos s.pager.number_pos]
  have first := s.pager.number_pos
  omega

theorem inv_of_settled (h : s.Settled) : s.Inv := by
  obtain ⟨page, ready, shows⟩ := h.shows
  have range := (range_iff shows).mp h.range
  refine ⟨⟨h.nodup, fun q hq => ?_⟩, .inl ⟨[], [], s.pager.number, ?_⟩⟩
  · rw [h.idle] at hq
    cases hq
  · exact ⟨h.idle, rfl, s.pager.number_pos, ⟨Nat.le_refl _, nofun⟩, range,
      .inl ⟨page, ready, shows⟩, nofun, range.imp_right (hasSpare_nil s.pager.size_pos)⟩

theorem settled_of_inv (h : s.Inv) (idle : s.requests = []) : s.Settled := by
  have serving : ∃ last, s.Serving [] [] last := by
    rcases h.phase with ⟨qs, ds, last, serving⟩ | ⟨ds, qs, draining⟩
    · obtain ⟨noLoads, noDeletions⟩ := List.append_eq_nil_iff.mp (serving.requests.symm.trans idle)
      cases List.map_eq_nil_iff.mp noLoads
      cases List.map_eq_nil_iff.mp noDeletions
      exact ⟨last, serving⟩
    · obtain ⟨-, noLoads⟩ := List.append_eq_nil_iff.mp (draining.requests.symm.trans idle)
      cases List.map_eq_nil_iff.mp noLoads
      cases draining.target
  obtain ⟨last, serving⟩ := serving
  rcases serving.rows with ⟨page, ready, shows⟩ | ⟨-, -, loads⟩
  · have target : s.pager.number = last := serving.target
    exact ⟨h.sound.nodup, idle, ⟨page, ready, shows⟩,
      (range_iff shows).mpr (target ▸ serving.range)⟩
  · exact absurd rfl loads

/-! ## Top theorem -/

/-- **Deletions settle.**  As long as the clicks on rows spare one where that is needed, the view
settles on a page of the list, however the deletions overlap. -/
theorem settled_of_steps {s' : Listed} (h : s.Settled) (steps : s.Steps s')
    (idle : s'.requests = []) : s'.Settled :=
  settled_of_inv (inv_steps (inv_of_settled h) steps) idle

/-- A settled view is empty only if its list is. -/
theorem items_eq_nil_of_settled (h : s.Settled) (empty : s.rows.items = []) : s.items = [] := by
  obtain ⟨page, ready, shows⟩ := h.shows
  have data : slice s.items s.pager.size s.pager.number = [] := by
    rw [ready] at empty
    exact shows.serves.data.symm.trans empty
  rcases (range_iff shows).mp h.range with first | inside
  · rw [first] at data
    by_cases some : 0 < s.items.length
    · exact absurd data (slice_ne_nil s.pager.size_pos (by rwa [Nat.sub_self, Nat.zero_mul]))
    · exact List.length_eq_zero_iff.mp (Nat.eq_zero_of_not_pos some)
  · exact absurd data (slice_ne_nil s.pager.size_pos inside)

end Listed

end CarCatalog
