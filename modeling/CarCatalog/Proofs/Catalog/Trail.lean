import CarCatalog.Catalog.Trail

/-!
# The trail as a stack

A trail is a stack of at most four ids: descending pushes one, and is ignored when there are four;
ascending pops the last one.  It may also be kept as four picks, one for each kind of record
(`Picks`).  Four picks could have gaps, and are read in another order when descending than when
ascending; those that moves lead to have none, and are the trail.

    (t.after moves).toList = stacked t.toList moves                            (toList_after)
    (t.after moves).picks = t.picks.after moves                                (picks_after)
    t.picks = .ofList t.toList                                                 (picks_eq_ofList)
    t.level = .ofStack t.toList                                                (level_eq_ofStack)
-/

namespace CarCatalog

/-- A way to go on in the catalog. -/
inductive Move
  | descend (id : Int64)
  | ascend
  deriving DecidableEq, Repr

/-! ## Three readings of a move -/

/-- What moves leave on a stack of ids. -/
def stacked (ids : List Int64) : List Move → List Int64
  | [] => ids
  | .descend id :: moves => stacked (if ids.length < 4 then ids ++ [id] else ids) moves
  | .ascend :: moves => stacked ids.dropLast moves

/-- The list that a stack leads to: the last id is its parent. -/
def Level.ofStack (ids : List Int64) : Level :=
  match ids.getLast? with
  | none => .brands
  | some id =>
    match ids.length with
    | 1 => .models id
    | 2 => .submodels id
    | 3 => .generations id
    | _ => .specs id

namespace Trail

def move (t : Trail) : Move → Trail
  | .descend id => t.descend id
  | .ascend => t.ascend

def after (t : Trail) (moves : List Move) : Trail := moves.foldl move t

end Trail

/-- A pick for each kind of record. -/
structure Picks where
  brand : Option Int64
  model : Option Int64
  submodel : Option Int64
  generation : Option Int64
  deriving DecidableEq, Repr

namespace Picks

def blank : Picks := ⟨none, none, none, none⟩

/-- The innermost pick decides; picks with a gap before the last one count as they are. -/
def level (p : Picks) : Level :=
  match p.brand, p.model, p.submodel, p.generation with
  | _, _, _, some g => .specs g
  | _, _, some s, none => .generations s
  | _, some m, none, none => .submodels m
  | some b, none, none, none => .models b
  | none, none, none, none => .brands

def descend (p : Picks) (id : Int64) : Picks :=
  match p.level with
  | .brands => { p with brand := some id }
  | .models _ => { p with model := some id }
  | .submodels _ => { p with submodel := some id }
  | .generations _ => { p with generation := some id }
  | .specs _ => p

def ascend (p : Picks) : Picks :=
  if p.generation.isSome then { p with generation := none }
  else if p.submodel.isSome then { p with submodel := none }
  else if p.model.isSome then { p with model := none }
  else blank

def isRoot (p : Picks) : Bool := p.brand.isNone

def move (p : Picks) : Move → Picks
  | .descend id => p.descend id
  | .ascend => p.ascend

def after (p : Picks) (moves : List Move) : Picks := moves.foldl move p

/-- The first four ids of a stack, from the outermost on. -/
def ofList (ids : List Int64) : Picks := ⟨ids[0]?, ids[1]?, ids[2]?, ids[3]?⟩

/-- Nothing is picked below a kind of which nothing is. -/
structure Gapless (p : Picks) : Prop where
  generation : p.generation.isSome → p.submodel.isSome
  submodel : p.submodel.isSome → p.model.isSome
  model : p.model.isSome → p.brand.isSome

end Picks

namespace Trail

/-- A trail as four picks. -/
def picks : Trail → Picks
  | .root => .blank
  | .brand b => ⟨some b, none, none, none⟩
  | .model b m => ⟨some b, some m, none, none⟩
  | .submodel b m s => ⟨some b, some m, some s, none⟩
  | .generation b m s g => ⟨some b, some m, some s, some g⟩

variable (t : Trail) (id : Int64) (m : Move) (moves : List Move)

/-! ## Trails and stacks -/

theorem length_toList_le : t.toList.length ≤ 4 := by
  cases t <;> simp [toList]

theorem toList_after : (t.after moves).toList = stacked t.toList moves := by
  induction moves generalizing t with
  | nil => rfl
  | cons m moves ih =>
    show ((t.move m).after moves).toList = _
    rw [ih]
    cases m with
    | descend id => rw [stacked, ← toList_descend]; rfl
    | ascend => rw [stacked, ← toList_ascend]; rfl

theorem level_eq_ofStack : t.level = .ofStack t.toList := by
  cases t <;> rfl

theorem isRoot_iff : t.isRoot = true ↔ t.toList = [] := by
  cases t <;> simp [isRoot, toList]

/-- Only a full stack leads to the specs. -/
theorem isLeaf_iff : t.level.isLeaf = true ↔ t.toList.length = 4 := by
  cases t <;> simp [level, Level.isLeaf, toList]

theorem ascend_descend (h : t.level.isLeaf = false) : (t.descend id).ascend = t := by
  cases t with
  | generation b m s g => cases h
  | _ => rfl

/-! ## Trails and picks -/

theorem picks_eq_ofList : t.picks = .ofList t.toList := by
  cases t <;> rfl

theorem gapless_picks : t.picks.Gapless := by
  cases t <;> exact ⟨by simp [picks, Picks.blank], by simp [picks, Picks.blank],
    by simp [picks, Picks.blank]⟩

theorem level_picks : t.picks.level = t.level := by
  cases t <;> rfl

theorem isRoot_picks : t.picks.isRoot = t.isRoot := by
  cases t <;> rfl

theorem picks_move : (t.move m).picks = t.picks.move m := by
  cases m with
  | descend id => cases t <;> rfl
  | ascend => cases t <;> rfl

theorem picks_after : (t.after moves).picks = t.picks.after moves := by
  induction moves generalizing t with
  | nil => rfl
  | cons m moves ih =>
    show ((t.move m).after moves).picks = (t.picks.move m).after moves
    rw [ih, picks_move]

theorem ascend_descend_picks (h : t.level.isLeaf = false) :
    (t.picks.descend id).ascend = t.picks := by
  have down : t.picks.descend id = (t.descend id).picks := (t.picks_move (.descend id)).symm
  have up : (t.descend id).picks.ascend = (t.descend id).ascend.picks :=
    ((t.descend id).picks_move .ascend).symm
  rw [down, up, ascend_descend t id h]

/-! ## All three -/

/-- A trail and four picks are as a stack has it. -/
structure Refines (ids : List Int64) (t : Trail) (p : Picks) : Prop where
  few : ids.length ≤ 4
  trail : t.toList = ids
  picks : p = .ofList ids ∧ p = t.picks
  gapless : p.Gapless
  level : p.level = .ofStack ids ∧ t.level = .ofStack ids
  root : (p.isRoot = true ↔ ids = []) ∧ (t.isRoot = true ↔ ids = [])
  back : p.level.isLeaf = false → ∀ id, (p.descend id).ascend = p ∧ (t.descend id).ascend = t

/-- **Moves** lead a trail and four picks where they lead a stack. -/
theorem refines_after : Refines (stacked [] moves) (root.after moves) (Picks.blank.after moves) := by
  have ids : (root.after moves).toList = stacked [] moves := toList_after root moves
  have picks : Picks.blank.after moves = (root.after moves).picks := (picks_after root moves).symm
  generalize root.after moves = t at *
  rw [picks, ← ids]
  exact {
    few := t.length_toList_le
    trail := rfl
    picks := ⟨t.picks_eq_ofList, rfl⟩
    gapless := t.gapless_picks
    level := ⟨t.level_picks.trans t.level_eq_ofStack, t.level_eq_ofStack⟩
    root := ⟨by rw [isRoot_picks, isRoot_iff], t.isRoot_iff⟩
    back := fun inner id => by
      rw [level_picks] at inner
      exact ⟨t.ascend_descend_picks id inner, t.ascend_descend id inner⟩ }

end Trail

end CarCatalog
