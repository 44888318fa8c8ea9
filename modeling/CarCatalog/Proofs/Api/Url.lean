import CarCatalog.Proofs.Api.Address
import CarCatalog.Proofs.Text.Percent
import Mathlib.Data.List.TakeWhile

/-!
# How an address is followed

Behind its scheme and its authority an address has a path, and it may have a query and a fragment.  Whoever
follows it takes the dots out of the path first: a segment `.` is the place it stands at, and `..` goes back
by one segment.

    path (Api.url p) = p                          if neither `?` nor `#` is in p        (path_url)
    query? (Api.url (p ++ "?" ++ q)) = some q     if `#` is not in q either             (query?_url)
    removeDots segments = segments                if none of them is `.` or `..`        (removeDots_of_plain)
-/

namespace CarCatalog

namespace Url

/-- A query and a fragment end a path. -/
def inPath (c : Char) : Bool := c != '?' && c != '#'

/-- What follows the scheme and the authority. -/
def target (url : String) : List Char :=
  ((url.toList.dropWhile (· != ':')).drop 3).dropWhile fun c => c != '/' && inPath c

def path (url : String) : String := String.ofList ((target url).takeWhile inPath)

/-- The query of an address, without the fragment behind it. -/
def query? (url : String) : Option String :=
  match (target url).dropWhile inPath with
  | '?' :: rest => some (String.ofList (rest.takeWhile (· != '#')))
  | _ => none

/-! ## Dots -/

/-- The segments of a path, each behind a slash. -/
def segments (path : String) : List String := ((path.toList.splitOn '/').drop 1).map String.ofList

/-- What can stand between two slashes of a path, or at its end. -/
def IsSegment (segment : String) : Prop := ∀ c ∈ segment.toList, c ≠ '/' ∧ inPath c = true

instance (segment : String) : Decidable (IsSegment segment) :=
  decidable_of_iff (segment.toList.all fun c => c != '/' && inPath c) (by simp [IsSegment])

def isDots (segment : String) : Bool := segment == "." || segment == ".."

/-- Where a segment leads from a place. -/
def follow (place : List String) (segment : String) : List String :=
  if segment = ".." then place.dropLast else if segment = "." then place else place ++ [segment]

/-- The segments that are left of a path once the dots are taken out.  Dots at its end leave an empty segment
there. -/
def removeDots (segments : List String) : List String :=
  segments.foldl follow [] ++ if segments.getLast?.any isDots then [""] else []

/-- The path that an address is followed to. -/
def resolved (url : String) : String := Api.pathOf (removeDots (segments (path url)))

/-! ## Parts of an address -/

theorem target_url {path : String} (h : path.toList.head? = some '/') :
    target (Api.url path) = path.toList := by
  have base : Api.base.toList = "http://localhost:8000".toList := by decide +kernel
  obtain ⟨rest, hrest⟩ : ∃ rest, path.toList = '/' :: rest := by
    cases hp : path.toList with
    | nil => simp [hp] at h
    | cons c rest =>
      rw [hp] at h
      cases h
      exact ⟨rest, rfl⟩
  rw [target, Api.url, String.toList_append, base, hrest]
  rfl

theorem path_url {path : String} (h : path.toList.head? = some '/')
    (plain : ∀ c ∈ path.toList, inPath c = true) : Url.path (Api.url path) = path := by
  rw [Url.path, target_url h, List.takeWhile_eq_self_iff.mpr plain, String.ofList_toList]

theorem target_url_query {path : String} (h : path.toList.head? = some '/') (query : String) :
    target (Api.url (path ++ "?" ++ query)) = path.toList ++ '?' :: query.toList := by
  have whole : (path ++ "?" ++ query).toList = path.toList ++ '?' :: query.toList := by
    simp
  rw [target_url, whole]
  rw [whole, List.head?_append, h]
  rfl

theorem path_url_query {path : String} (h : path.toList.head? = some '/')
    (plain : ∀ c ∈ path.toList, inPath c = true) (query : String) :
    Url.path (Api.url (path ++ "?" ++ query)) = path := by
  have ends : ¬inPath '?' = true := by decide
  rw [Url.path, target_url_query h, List.takeWhile_append_of_pos plain,
    List.takeWhile_cons_of_neg ends, List.append_nil, String.ofList_toList]

theorem query?_url {path query : String} (h : path.toList.head? = some '/')
    (plain : ∀ c ∈ path.toList, inPath c = true) (clean : '#' ∉ query.toList) :
    query? (Api.url (path ++ "?" ++ query)) = some query := by
  have ends : ¬inPath '?' = true := by decide
  rw [query?, target_url_query h, List.dropWhile_append_of_pos plain, List.dropWhile_cons_of_neg ends]
  show some (String.ofList (query.toList.takeWhile (· != '#'))) = _
  have all : ∀ c ∈ query.toList, (c != '#') = true := by
    intro c hc
    rw [bne_iff_ne]
    rintro rfl
    exact clean hc
  rw [List.takeWhile_eq_self_iff.mpr all, String.ofList_toList]

/-! ## Segments -/

theorem segments_pathOf {steps : List String} (h : ∀ s ∈ steps, '/' ∉ s.toList) :
    segments (Api.pathOf steps) = steps := by
  rw [segments, Api.splitOn_pathOf h, List.drop_one, List.tail_cons, List.map_map]
  have back : String.ofList ∘ String.toList = id := funext fun s => String.ofList_toList
  rw [back, List.map_id]

theorem head?_pathOf {steps : List String} (nonempty : steps ≠ []) :
    (Api.pathOf steps).toList.head? = some '/' := by
  cases steps with
  | nil => exact absurd rfl nonempty
  | cons s rest =>
    show ("/" ++ s ++ Api.pathOf rest).toList.head? = _
    simp

theorem inPath_pathOf {steps : List String} (segment : ∀ s ∈ steps, IsSegment s) :
    ∀ c ∈ (Api.pathOf steps).toList, inPath c = true := by
  induction steps with
  | nil => exact List.forall_mem_nil _
  | cons s rest ih =>
    intro c hc
    have hc : c ∈ ("/" ++ s ++ Api.pathOf rest).toList := hc
    rw [String.toList_append, String.toList_append, List.append_assoc] at hc
    rcases List.mem_append.mp hc with slash | hc
    · rw [List.mem_singleton.mp slash]
      decide
    · rcases List.mem_append.mp hc with hc | hc
      · exact (segment s List.mem_cons_self c hc).2
      · exact ih (fun t ht => segment t (List.mem_cons_of_mem _ ht)) c hc

theorem follow_of_plain {segment : String} (plain : isDots segment = false) (place : List String) :
    follow place segment = place ++ [segment] := by
  rw [isDots, Bool.or_eq_false_iff, beq_eq_false_iff_ne, beq_eq_false_iff_ne] at plain
  rw [follow, if_neg plain.2, if_neg plain.1]

theorem foldl_follow_of_plain {segments : List String} (plain : ∀ s ∈ segments, isDots s = false)
    (place : List String) : segments.foldl follow place = place ++ segments := by
  induction segments generalizing place with
  | nil => exact (List.append_nil place).symm
  | cons s rest ih =>
    have first : isDots s = false := plain s List.mem_cons_self
    have others : ∀ s ∈ rest, isDots s = false := fun t ht => plain t (List.mem_cons_of_mem _ ht)
    rw [List.foldl_cons, follow_of_plain first, ih others, List.append_assoc]
    rfl

theorem removeDots_of_plain {segments : List String} (plain : ∀ s ∈ segments, isDots s = false) :
    removeDots segments = segments := by
  have last : segments.getLast?.any isDots = false := by
    cases h : segments.getLast? with
    | none => rfl
    | some s => exact plain s (List.mem_of_getLast? h)
  rw [removeDots, foldl_follow_of_plain plain, last]
  exact List.append_nil _

/-- An address whose path is put together of segments is followed through these. -/
theorem resolved_url {steps : List String} (nonempty : steps ≠ [])
    (segment : ∀ s ∈ steps, IsSegment s) :
    resolved (Api.url (Api.pathOf steps)) = Api.pathOf (removeDots steps) := by
  have slashes : ∀ s ∈ steps, '/' ∉ s.toList := fun s hs h => (segment s hs '/' h).1 rfl
  rw [resolved, path_url (head?_pathOf nonempty) (inPath_pathOf segment), segments_pathOf slashes]

/-- Dots at the end of a path. -/
theorem removeDots_concat {segments : List String} (plain : ∀ s ∈ segments, isDots s = false)
    {last : String} (dots : isDots last = true) :
    removeDots (segments ++ [last]) = follow segments last ++ [""] := by
  have ends : (segments ++ [last]).getLast?.any isDots = true := by
    rw [List.getLast?_concat]
    exact dots
  rw [removeDots, ends, List.foldl_append, foldl_follow_of_plain plain]
  rfl

end Url

open Text

/-! ## What is written is a segment -/

theorem Url.isSegment_of_notMem {s : String} (slash : '/' ∉ s.toList) (question : '?' ∉ s.toList)
    (hash : '#' ∉ s.toList) : IsSegment s := by
  intro c hc
  have other : ∀ {d : Char}, d ∉ s.toList → c ≠ d := by
    rintro d hd rfl
    exact hd hc
  rw [inPath, Bool.and_eq_true, bne_iff_ne, bne_iff_ne]
  exact ⟨other slash, other question, other hash⟩

theorem Text.isSegment_encode (s : String) : Url.IsSegment (Percent.encode s) :=
  Url.isSegment_of_notMem (Percent.notMem_encode (by decide) s) (Percent.notMem_encode (by decide) s)
    (Percent.notMem_encode (by decide) s)

theorem Text.isSegment_toString (i : Int) : Url.IsSegment (toString i) :=
  Url.isSegment_of_notMem (slash_notMem_toString i)
    (notMem_toString (by decide) (by decide) i) (notMem_toString (by decide) (by decide) i)

/-- What is not read as an integer is not printed for one. -/
theorem Text.toString_ne {s : String} (unread : readInt s.toList = none) (i : Int) : toString i ≠ s := by
  intro h
  have read := readInt_toString i
  rw [h, unread] at read
  cases read

theorem Text.isDots_toString (i : Int) : Url.isDots (toString i) = false := by
  rw [Url.isDots, Bool.or_eq_false_iff, beq_eq_false_iff_ne, beq_eq_false_iff_ne]
  exact ⟨toString_ne (by decide) i, toString_ne (by decide) i⟩

/-- Only dots are written as dots. -/
theorem Text.isDots_encode (s : String) : Url.isDots (Percent.encode s) = Url.isDots s := by
  have fixed : ∀ {t : String}, Percent.encode t = t → (Percent.encode s == t) = (s == t) := by
    intro t ht
    rw [Bool.eq_iff_iff, beq_iff_eq, beq_iff_eq]
    constructor
    · intro h
      exact Percent.encode_inj (h.trans ht.symm)
    · rintro rfl
      exact ht
  rw [Url.isDots, fixed (by decide +kernel), fixed (by decide +kernel)]
  rfl

theorem Level.isSegment_steps (l : Level) : ∀ s ∈ l.steps, Url.IsSegment s := by
  have names : ∀ s ∈ listNames, Url.IsSegment s := by decide
  intro s hs
  rcases steps_cases l s hs with h | ⟨id, rfl⟩
  · exact names s h
  · exact isSegment_toString id.toInt

namespace Api

/-- What is listed of a user. -/
def userSteps (user : Int64) (list : String) : List String := ["users", toString user.toInt, list]

theorem isSegment_userSteps (user : Int64) {list : String} (segment : Url.IsSegment list) :
    ∀ s ∈ userSteps user list, Url.IsSegment s := by
  have users : Url.IsSegment "users" := by decide
  exact List.forall_mem_cons.mpr ⟨users, List.forall_mem_cons.mpr
    ⟨isSegment_toString user.toInt, List.forall_mem_singleton.mpr segment⟩⟩

end Api

end CarCatalog
