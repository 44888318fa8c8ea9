import CarCatalog.Text.Percent
import CarCatalog.Wire.Basic

/-!
# Paging

A `Pager` walks the pages of a list.  It asks by a `PageQuery`, and believes the number of the page
and of all pages that the answer's `PageMeta` gives, neither below one.
-/

namespace CarCatalog

/-- What a list answer says of itself. -/
structure PageMeta where
  page : UInt32
  perPage : UInt32
  totalItems : UInt64
  totalPages : UInt32
  deriving DecidableEq, Repr

/-- One page of a list. -/
structure Page (α : Type) where
  data : List α
  info : PageMeta
  deriving DecidableEq, Repr

instance : Wire PageMeta where
  ofJson? j := do
    let field ← j.fields ["page", "per_page", "total_items", "total_pages"]
    return {
      page := ← (field "page").get
      perPage := ← (field "per_page").get
      totalItems := ← (field "total_items").get
      totalPages := ← (field "total_pages").get }
  toJson v := .record [
    member "page" v.page, member "per_page" v.perPage, member "total_items" v.totalItems,
    member "total_pages" v.totalPages]

instance {α : Type} [Wire α] : Wire (Page α) where
  ofJson? j := do
    let field ← j.fields ["data", "meta"]
    return { data := ← (field "data").get, info := ← (field "meta").get }
  toJson v := .record [member "data" v.data, member "meta" v.info]

def Page.map {α β : Type} (f : α → β) (p : Page α) : Page β := ⟨p.data.map f, p.info⟩

/-! ## Queries -/

structure PageQuery where
  page : UInt32
  perPage : UInt32
  sortBy : Option String
  deriving DecidableEq, Repr

def tablePageSize : UInt32 := 10

def cardPageSize : UInt32 := 12

def selectPageSize : UInt32 := 100

namespace PageQuery

/-- Neither number goes below one. -/
def new (page perPage : UInt32) : PageQuery := ⟨max page 1, max perPage 1, none⟩

def default : PageQuery := new 1 tablePageSize

def toQueryString (q : PageQuery) : String :=
  s!"page={q.page.toNat}&per_page={q.perPage.toNat}" ++
  match q.sortBy with
  | none => ""
  | some key => "&sort_by=" ++ Text.Percent.encode key

end PageQuery

/-! ## Pagers -/

structure Pager where
  page : UInt32
  perPage : UInt32
  sortBy : Option String
  info : Option PageMeta
  deriving DecidableEq, Repr

namespace Pager

def new (perPage : UInt32) : Pager := ⟨1, max perPage 1, none, none⟩

def sorted (perPage : UInt32) (sortBy : String) : Pager :=
  { new perPage with sortBy := some sortBy }

def query (p : Pager) : PageQuery := { PageQuery.new p.page p.perPage with sortBy := p.sortBy }

def totalPages (p : Pager) : UInt32 :=
  match p.info with
  | none => 1
  | some info => max info.totalPages 1

def hasPrevious (p : Pager) : Bool := 1 < p.page

def hasNext (p : Pager) : Bool := p.page < p.totalPages

def isSinglePage (p : Pager) : Bool := p.totalPages ≤ 1

def summary (p : Pager) : String := s!"Page {p.page.toNat} of {p.totalPages.toNat}"

/-- Takes over what an answer says of the list. -/
def observe (info : PageMeta) (p : Pager) : Pager :=
  { p with page := max info.page 1, info := some info }

/-- One page on, if there is one; also says whether it moved. -/
def next (p : Pager) : Bool × Pager :=
  if p.hasNext then (true, { p with page := p.page + 1 }) else (false, p)

/-- One page back, if there is one; also says whether it moved. -/
def previous (p : Pager) : Bool × Pager :=
  if p.hasPrevious then (true, { p with page := p.page - 1 }) else (false, p)

/-- After a deletion: one page back if nothing remains on this one. -/
def settle (remaining : Nat) (p : Pager) : Pager :=
  if remaining = 0 && p.hasPrevious then { p with page := p.page - 1 } else p

end Pager

def countLabel (count : UInt64) (singular plural : String) : String :=
  s!"{count.toNat} " ++ if count = 1 then singular else plural

end CarCatalog
