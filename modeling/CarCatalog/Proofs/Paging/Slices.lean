import CarCatalog.Paging.Loadable

/-!
# Pages of a list

A list is cut into pages of one size, the last of which may be shorter.

    x ∈ slice items size page → x ∈ slice items size other → page = other          (slice_unique)
    page ≤ pageCount items size ↔ (page - 1) * size < items.length                 (le_pageCount_iff)

A pager believes what an answer says of the list, and takes a page off only where it empties.
-/

namespace CarCatalog

namespace Paging

variable {α : Type}

/-- The items on a page; the first page is page 1. -/
def slice (items : List α) (size page : Nat) : List α := (items.drop ((page - 1) * size)).take size

/-- The number of pages. -/
def pageCount (items : List α) (size : Nat) : Nat := (items.length + size - 1) / size

/-! ## Slices -/

variable {items : List α} {size page : Nat} {x : α}

theorem mem_slice_iff : x ∈ slice items size page ↔
    ∃ i, (page - 1) * size ≤ i ∧ i < (page - 1) * size + size ∧ items[i]? = some x := by
  rw [slice, List.mem_iff_getElem?]
  constructor
  · rintro ⟨j, h⟩
    rw [List.getElem?_take] at h
    split at h
    · next hj =>
      rw [List.getElem?_drop] at h
      exact ⟨_, Nat.le_add_right _ _, Nat.add_lt_add_left hj _, h⟩
    · cases h
  · rintro ⟨i, from_, to_, h⟩
    refine ⟨i - (page - 1) * size, ?_⟩
    rw [List.getElem?_take, if_pos (by omega), List.getElem?_drop, Nat.add_sub_cancel' from_]
    exact h

theorem mem_of_mem_slice (h : x ∈ slice items size page) : x ∈ items := by
  obtain ⟨i, -, -, h⟩ := mem_slice_iff.mp h
  exact List.mem_of_getElem? h

/-- The pages from one on are what the pages before it leave. -/
theorem mem_drop_of_mem_slice {first : Nat} (h : x ∈ slice items size page) (le : first ≤ page) :
    x ∈ items.drop ((first - 1) * size) := by
  obtain ⟨i, from_, -, h⟩ := mem_slice_iff.mp h
  have start : (first - 1) * size ≤ i :=
    Nat.le_trans (Nat.mul_le_mul_right size (Nat.sub_le_sub_right le 1)) from_
  refine List.mem_iff_getElem?.mpr ⟨i - (first - 1) * size, ?_⟩
  rw [List.getElem?_drop, Nat.add_sub_cancel' start]
  exact h

/-- An item is on one page only. -/
theorem slice_unique (nodup : items.Nodup) {other : Nat} (first : 1 ≤ page) (first' : 1 ≤ other)
    (h : x ∈ slice items size page) (h' : x ∈ slice items size other) : page = other := by
  obtain ⟨i, from_, to_, hi⟩ := mem_slice_iff.mp h
  obtain ⟨j, from', to', hj⟩ := mem_slice_iff.mp h'
  have same : i = j :=
    (List.getElem?_inj (List.getElem?_eq_some_iff.mp hi).1 nodup).mp (hi.trans hj.symm)
  subst same
  have number : ∀ {p : Nat}, (p - 1) * size ≤ i → i < (p - 1) * size + size → i / size = p - 1 :=
    fun {p} lo hi => Nat.div_eq_of_lt_le lo (by rwa [Nat.succ_mul])
  have := (number from_ to_).symm.trans (number from' to')
  omega

theorem le_pageCount_iff (positive : 0 < size) (first : 1 ≤ page) :
    page ≤ pageCount items size ↔ (page - 1) * size < items.length := by
  obtain ⟨p, rfl⟩ := Nat.exists_eq_add_of_le' first
  rw [pageCount, Nat.le_div_iff_mul_le positive, Nat.succ_mul, Nat.add_sub_cancel]
  omega

theorem slice_ne_nil (positive : 0 < size) (h : (page - 1) * size < items.length) :
    slice items size page ≠ [] := by
  have item : items[(page - 1) * size] ∈ slice items size page :=
    mem_slice_iff.mpr ⟨_, Nat.le_refl _, by omega, List.getElem?_eq_getElem h⟩
  exact List.ne_nil_of_mem item

/-- The last page of a list that has any has an item. -/
theorem exists_mem_last (positive : 0 < size) (h : items ≠ []) :
    ∃ y, y ∈ slice items size (pageCount items size) := by
  have some : 1 ≤ pageCount items size :=
    (le_pageCount_iff positive (Nat.le_refl 1)).mpr (by
      rw [Nat.sub_self, Nat.zero_mul]
      exact List.length_pos_iff.mpr h)
  exact List.exists_mem_of_ne_nil _
    (slice_ne_nil positive ((le_pageCount_iff positive some).mp (Nat.le_refl _)))

/-! ## What is left of a list -/

section

variable [DecidableEq α]

/-- The items that are not to go. -/
def rest (items gone : List α) : List α := items.filter fun y => !gone.contains y

theorem rest_nil (items : List α) : rest items [] = items :=
  List.filter_eq_self.mpr fun _ _ => rfl

theorem rest_erase (nodup : items.Nodup) (x : α) (gone : List α) :
    rest (items.erase x) gone = rest items (x :: gone) := by
  rw [rest, nodup.erase_eq_filter, List.filter_filter, rest]
  refine List.filter_congr fun y _ => ?_
  rw [List.contains_cons, Bool.not_or, Bool.and_comm]
  rfl

theorem rest_cons_of_notMem (h : x ∉ items) (gone : List α) :
    rest items (x :: gone) = rest items gone := by
  refine List.filter_congr fun y hy => ?_
  have other : (y == x) = false := beq_eq_false_iff_ne.mpr fun e => h (e ▸ hy)
  rw [List.contains_cons, other, Bool.false_or]

/-- What is in front of all that goes stays. -/
theorem length_rest (nodup : items.Nodup) {gone : List α} {m : Nat}
    (behind : ∀ y ∈ gone, y ∈ items.drop m) :
    (rest items gone).length = min m items.length + (rest (items.drop m) gone).length := by
  have apart := List.nodup_append.mp (List.take_append_drop m items ▸ nodup)
  have front : rest (items.take m) gone = items.take m := by
    refine List.filter_eq_self.mpr fun y hy => ?_
    rw [Bool.not_eq_true', ← Bool.not_eq_true, List.contains_iff_mem]
    exact fun hg => apart.2.2 y hy y (behind y hg) rfl
  have split : rest items gone = rest (items.take m) gone ++ rest (items.drop m) gone := by
    rw [rest, rest, rest, ← List.filter_append, List.take_append_drop]
  rw [split, front, List.length_append, List.length_take]

theorem le_length_rest (nodup : items.Nodup) {gone : List α} {m : Nat} (le : m ≤ items.length)
    (behind : ∀ y ∈ gone, y ∈ items.drop m) : m ≤ (rest items gone).length := by
  rw [length_rest nodup behind, Nat.min_eq_left le]
  exact Nat.le_add_right _ _

theorem lt_length_rest (nodup : items.Nodup) {gone : List α} {m : Nat} (le : m ≤ items.length)
    (behind : ∀ y ∈ gone, y ∈ items.drop m) (hx : x ∈ items.drop m) (stays : x ∉ gone) :
    m < (rest items gone).length := by
  have stays : x ∈ rest (items.drop m) gone :=
    List.mem_filter.mpr ⟨hx, by rwa [Bool.not_eq_true', ← Bool.not_eq_true, List.contains_iff_mem]⟩
  rw [length_rest nodup behind, Nat.min_eq_left le]
  exact Nat.lt_add_of_pos_right (List.length_pos_of_mem stays)

end

/-- What a server that keeps a list answers to a query. -/
structure Serves (items : List Int64) (q : PageQuery) (page : Page Int64) : Prop where
  data : page.data = slice items q.perPage.toNat q.page.toNat
  number : page.info.page = q.page
  total : page.info.totalItems.toNat = items.length
  pages : page.info.totalPages.toNat = pageCount items q.perPage.toNat

end Paging

/-! ## Pagers -/

theorem UInt32.toNat_max (a b : UInt32) : (max a b).toNat = max a.toNat b.toNat := by
  show (if a ≤ b then b else a).toNat = _
  split
  · next h => rw [Nat.max_eq_right (UInt32.le_iff_toNat_le.mp h)]
  · next h =>
    rw [Nat.max_eq_left (Nat.le_of_lt (Nat.lt_of_not_le fun le => h (UInt32.le_iff_toNat_le.mpr le)))]

namespace Pager

/-- The number of the page that is asked for. -/
def number (p : Pager) : Nat := p.query.page.toNat

/-- The size of the pages that are asked for. -/
def size (p : Pager) : Nat := p.query.perPage.toNat

/-- A pager that has been told of the page that is shown. -/
structure Shows (p : Pager) (items : List Int64) (page : Page Int64) : Prop where
  serves : Paging.Serves items p.query page
  info : p.info = some page.info
  positive : 1 ≤ p.page.toNat

theorem number_eq (p : Pager) : p.number = max p.page.toNat 1 := UInt32.toNat_max _ _

theorem size_eq (p : Pager) : p.size = max p.perPage.toNat 1 := UInt32.toNat_max _ _

theorem number_pos (p : Pager) : 1 ≤ p.number := p.number_eq ▸ Nat.le_max_right _ _

theorem size_pos (p : Pager) : 0 < p.size := p.size_eq ▸ Nat.le_max_right _ _

theorem number_observe (p : Pager) (info : PageMeta) :
    (p.observe info).number = max info.page.toNat 1 := by
  rw [number_eq, observe, UInt32.toNat_max]
  show max (max _ 1) 1 = _
  omega

/-- Believing the answer to a query of its page size, a pager shows that page. -/
theorem shows_observe {p : Pager} {items : List Int64} {q : PageQuery} {page : Page Int64}
    (serves : Paging.Serves items q page) (size : q.perPage.toNat = p.size)
    (first : 1 ≤ q.page.toNat) :
    (p.observe page.info).Shows items page ∧ (p.observe page.info).number = q.page.toNat := by
  have number : (p.observe page.info).number = q.page.toNat := by
    rw [number_observe, serves.number, Nat.max_eq_left first]
  refine ⟨⟨⟨?_, ?_, serves.total, ?_⟩, rfl, ?_⟩, number⟩
  · rw [serves.data, size, ← number]
    rfl
  · rw [← UInt32.toNat_inj, serves.number]
    exact number.symm
  · rw [serves.pages, size]
    rfl
  · show 1 ≤ (max page.info.page 1).toNat
    rw [UInt32.toNat_max]
    exact Nat.le_max_right _ _

theorem Shows.totalPages_eq {p : Pager} {items : List Int64} {page : Page Int64}
    (h : p.Shows items page) : p.totalPages.toNat = max (Paging.pageCount items p.size) 1 := by
  rw [totalPages, h.info]
  show (max page.info.totalPages 1).toNat = _
  rw [UInt32.toNat_max, h.serves.pages]
  rfl

theorem hasPrevious_iff (p : Pager) : p.hasPrevious = true ↔ 1 < p.number := by
  rw [number_eq, hasPrevious, decide_eq_true_iff, UInt32.lt_iff_toNat_lt]
  show 1 < _ ↔ _
  omega

/-- A page is taken off where none of its rows remains, unless it is the first. -/
theorem number_settle (p : Pager) (remaining : Nat) :
    (p.settle remaining).number = if remaining = 0 then max (p.number - 1) 1 else p.number := by
  unfold settle
  by_cases none : remaining = 0
  · cases earlier : p.hasPrevious with
    | true =>
      have page := p.hasPrevious_iff.mp earlier
      rw [number_eq] at page
      have positive : (1 : UInt32) ≤ p.page := UInt32.le_iff_toNat_le.mpr (by
        show 1 ≤ p.page.toNat
        omega)
      simp only [none, decide_true, Bool.and_self, if_true, number_eq,
        UInt32.toNat_sub_of_le _ _ positive]
      show max (p.page.toNat - 1) 1 = _
      omega
    | false =>
      have first : ¬ 1 < p.number := fun h => by
        rw [p.hasPrevious_iff.mpr h] at earlier
        cases earlier
      have alone := p.number_pos
      simp only [none, decide_true, Bool.and_false, Bool.false_eq_true, if_false, if_true]
      omega
  · simp [none]

theorem size_settle (p : Pager) (remaining : Nat) : (p.settle remaining).size = p.size := by
  unfold settle
  split <;> rfl

end Pager

end CarCatalog
