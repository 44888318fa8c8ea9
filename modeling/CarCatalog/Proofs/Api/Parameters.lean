import CarCatalog.Proofs.Api.Url

/-!
# The parameters of a query

A query is read as its parts between `&`, each a name and, behind the first `=`, a value that is
percent-decoded.  What is asked of a list, and the role that is assigned, are read back from the address as
they were, whatever characters they have.

    parameters? query = some params                 if query is written of params      (parameters?_of_written)
    q.toQueryString is written of q.parameters                                         (toList_toQueryString)
    q.Said params → q'.Said params → q = q'                                                      (Said.unique)
-/

namespace CarCatalog

open Text

namespace Url

/-- A name and a value. -/
def parameter? (part : List Char) : Option (String × String) :=
  match part.dropWhile (· != '=') with
  | '=' :: value => (Percent.decode value).map (String.ofList (part.takeWhile (· != '=')), ·)
  | _ => none

def parameters? (query : String) : Option (List (String × String)) :=
  (query.toList.splitOn '&').mapM parameter?

/-! ## Writing parameters -/

def writeParameter (param : String × String) : List Char :=
  param.1.toList ++ '=' :: (Percent.encode param.2).toList

def writeParameters (params : List (String × String)) : List Char :=
  ['&'].intercalate (params.map writeParameter)

/-- What a name may not have, since it is not encoded. -/
def IsName (name : String) : Prop := '=' ∉ name.toList ∧ '&' ∉ name.toList ∧ '#' ∉ name.toList

instance (name : String) : Decidable (IsName name) := inferInstanceAs (Decidable (_ ∧ _ ∧ _))

/-! ## Reading parameters -/

theorem parameter?_writeParameter {param : String × String} (name : IsName param.1) :
    parameter? (writeParameter param) = some param := by
  have before : ∀ c ∈ param.1.toList, (c != '=') = true := by
    intro c hc
    rw [bne_iff_ne]
    rintro rfl
    exact name.1 hc
  have stop : ¬('=' != '=') = true := by decide
  rw [parameter?, writeParameter, List.dropWhile_append_of_pos before,
    List.takeWhile_append_of_pos before, List.dropWhile_cons_of_neg (p := (· != '=')) stop,
    List.takeWhile_cons_of_neg (p := (· != '=')) stop, List.append_nil, String.ofList_toList]
  show (Percent.decode (Percent.encode param.2).toList).map (param.1, ·) = some param
  rw [Percent.decode_encode]
  rfl

theorem mapM_parameter? {params : List (String × String)} (names : ∀ param ∈ params, IsName param.1) :
    (params.map writeParameter).mapM parameter? = some params := by
  induction params with
  | nil => rfl
  | cons param params ih =>
    obtain ⟨name, names⟩ := List.forall_mem_cons.mp names
    rw [List.map_cons, List.mapM_cons, parameter?_writeParameter name, ih names]
    rfl

theorem notMem_writeParameter {c : Char} (other : Percent.isWritten c = false) (equals : c ≠ '=')
    {param : String × String} (name : c ∉ param.1.toList) : c ∉ writeParameter param := by
  intro h
  rcases List.mem_append.mp h with h | h
  · exact name h
  · rcases List.mem_cons.mp h with h | h
    · exact equals h
    · exact Percent.notMem_encode other param.2 h

theorem hash_notMem_writeParameters {params : List (String × String)}
    (names : ∀ param ∈ params, IsName param.1) : '#' ∉ writeParameters params := by
  induction params with
  | nil => exact List.not_mem_nil
  | cons param params ih =>
    obtain ⟨name, names⟩ := List.forall_mem_cons.mp names
    have first : '#' ∉ writeParameter param :=
      notMem_writeParameter (by decide) (by decide) name.2.2
    cases params with
    | nil => simpa [writeParameters] using first
    | cons next params =>
      have rest : '#' ∉ writeParameters (next :: params) := ih names
      show '#' ∉ ['&'].intercalate (writeParameter param :: writeParameter next :: _)
      rw [List.intercalate_cons_cons]
      intro h
      rcases List.mem_append.mp h with h | h
      · rcases List.mem_append.mp h with h | h
        · exact first h
        · cases List.mem_singleton.mp h
      · exact rest h

section Written

variable {query : String} {params : List (String × String)} (written : query.toList = writeParameters params)
  (names : ∀ param ∈ params, IsName param.1)

include written names

/-- No value ends the part that it stands in. -/
theorem parameters?_of_written (nonempty : params ≠ []) : parameters? query = some params := by
  have whole : ∀ part ∈ params.map writeParameter, '&' ∉ part := by
    intro part hpart
    obtain ⟨param, hparam, rfl⟩ := List.mem_map.mp hpart
    exact notMem_writeParameter (by decide) (by decide) (names param hparam).2.1
  have parts : params.map writeParameter ≠ [] := by
    simpa using nonempty
  rw [parameters?, written, writeParameters, List.splitOn_intercalate '&' whole parts,
    mapM_parameter? names]

/-- No value ends the query. -/
theorem query?_of_written {path : String} (h : path.toList.head? = some '/')
    (plain : ∀ c ∈ path.toList, inPath c = true) :
    query? (Api.url (path ++ "?" ++ query)) = some query := by
  refine query?_url h plain ?_
  rw [written]
  exact hash_notMem_writeParameters names

end Written

end Url

/-! ## Numbers -/

namespace Text

theorem readNatUpTo_toString {n hi : Nat} (h : n ≤ hi) : readNatUpTo hi (toString n) = some n := by
  have sign : ∀ cs, Nat.toDigits 10 n ≠ '+' :: cs := by
    intro cs hcs
    have digit : isDigit '+' = true := isDigit_of_mem_toDigits (hcs ▸ List.mem_cons_self)
    cases digit
  show readNatUpTo hi n.repr = some n
  unfold readNatUpTo
  rw [Nat.toList_repr]
  split
  · next cs hcs => exact absurd hcs (sign cs)
  · show (readNat (Nat.toDigits 10 n)).filter (· ≤ hi) = some n
    rw [readNat_toDigits]
    simp [h]

@[simp] theorem Percent.encode_repr (n : Nat) : encode n.repr = n.repr := by
  refine encode_of_unreserved fun c hc => ?_
  rw [Nat.toList_repr] at hc
  have digit := isDigit_of_mem_toDigits hc
  rw [isDigit, Bool.and_eq_true, decide_eq_true_eq, decide_eq_true_eq] at digit
  have lo : 48 ≤ c.toNat := digit.1
  have hi : c.toNat ≤ 57 := digit.2
  have table : ∀ n < 58, 48 ≤ n → isUnreserved (UInt8.ofNat n) = true := by decide
  exact ⟨by omega, table c.toNat (by omega) lo⟩

end Text

/-! ## The query of a list -/

namespace PageQuery

/-- The parameters that a query is written of. -/
def parameters (q : PageQuery) : List (String × String) :=
  ("page", toString q.page.toNat) :: ("per_page", toString q.perPage.toNat) ::
    (q.sortBy.map fun key => ("sort_by", key)).toList

/-- A query is all that some parameters say. -/
structure Said (q : PageQuery) (params : List (String × String)) : Prop where
  names : params.map Prod.fst = "page" :: "per_page" :: (q.sortBy.map fun _ => "sort_by").toList
  page : (params.lookup "page").bind (readNatUpTo (UInt32.size - 1)) = some q.page.toNat
  perPage : (params.lookup "per_page").bind (readNatUpTo (UInt32.size - 1)) = some q.perPage.toNat
  sortBy : params.lookup "sort_by" = q.sortBy

theorem Said.unique {q q' : PageQuery} {params : List (String × String)} (h : q.Said params)
    (h' : q'.Said params) : q = q' := by
  have page : q.page = q'.page := by
    have := h.page.symm.trans h'.page
    exact UInt32.toNat_inj.mp (Option.some.inj this)
  have perPage : q.perPage = q'.perPage := by
    have := h.perPage.symm.trans h'.perPage
    exact UInt32.toNat_inj.mp (Option.some.inj this)
  have sortBy : q.sortBy = q'.sortBy := h.sortBy.symm.trans h'.sortBy
  cases q
  cases q'
  cases page
  cases perPage
  cases sortBy
  rfl

theorem said_parameters (q : PageQuery) : q.Said q.parameters where
  names := by
    unfold parameters
    cases q.sortBy <;> rfl
  page := readNatUpTo_toString (Nat.le_sub_one_of_lt q.page.toNat_lt)
  perPage := readNatUpTo_toString (Nat.le_sub_one_of_lt q.perPage.toNat_lt)
  sortBy := by
    unfold parameters
    cases q.sortBy <;> rfl

theorem isName_parameters (q : PageQuery) : ∀ param ∈ q.parameters, Url.IsName param.1 := by
  have sort : ∀ param ∈ (q.sortBy.map fun key => ("sort_by", key)).toList, Url.IsName param.1 := by
    intro param hparam
    rw [Option.mem_toList] at hparam
    obtain ⟨key, -, rfl⟩ := Option.map_eq_some_iff.mp hparam
    show Url.IsName "sort_by"
    decide
  have page : Url.IsName "page" := by decide
  have perPage : Url.IsName "per_page" := by decide
  exact List.forall_mem_cons.mpr ⟨page, List.forall_mem_cons.mpr ⟨perPage, sort⟩⟩

theorem toList_toQueryString (q : PageQuery) :
    q.toQueryString.toList = Url.writeParameters q.parameters := by
  unfold toQueryString parameters
  cases q.sortBy with
  | none =>
    show ("page=" ++ toString q.page.toNat ++ "&per_page=" ++ toString q.perPage.toNat ++ "").toList = _
    simp [Url.writeParameters, Url.writeParameter, List.intercalate_cons_cons]
  | some key =>
    show ("page=" ++ toString q.page.toNat ++ "&per_page=" ++ toString q.perPage.toNat ++
      ("&sort_by=" ++ Percent.encode key)).toList = _
    simp [Url.writeParameters, Url.writeParameter, List.intercalate_cons_cons]

theorem parameters?_toQueryString (q : PageQuery) :
    Url.parameters? q.toQueryString = some q.parameters :=
  Url.parameters?_of_written q.toList_toQueryString q.isName_parameters (List.cons_ne_nil _ _)

end PageQuery

/-! ## Requests -/

namespace Api

/-- The query stands in the address as it is. -/
theorem query?_withQuery {steps : List String} (nonempty : steps ≠ [])
    (segment : ∀ s ∈ steps, Url.IsSegment s) (q : PageQuery) :
    Url.query? (url (withQuery (pathOf steps) q)) = some q.toQueryString :=
  Url.query?_of_written q.toList_toQueryString q.isName_parameters (Url.head?_pathOf nonempty)
    (Url.inPath_pathOf segment)

theorem withQuery_inj {path : String} {q q' : PageQuery} (h : withQuery path q = withQuery path q') :
    q = q' := by
  have queries : q.toQueryString = q'.toQueryString := by
    have chars := congrArg String.toList h
    simp only [withQuery, String.toList_append] at chars
    exact String.toList_inj.mp (List.append_cancel_left chars)
  have read := q.parameters?_toQueryString
  rw [queries, q'.parameters?_toQueryString, Option.some.injEq] at read
  have said := q'.said_parameters
  rw [read] at said
  exact q.said_parameters.unique said

theorem isSegment_roleSteps (user : Int64) : ∀ s ∈ userSteps user "role", Url.IsSegment s :=
  isSegment_userSteps user (by decide)

def roleQuery (role : String) : String := String.ofList (Url.writeParameters [("role_name", role)])

theorem assignRole_path (user : Int64) (role : String) :
    Path.assignRole user role = pathOf (userSteps user "role") ++ "?" ++ roleQuery role := by
  rw [← String.toList_inj]
  show ("/users/" ++ toString user.toInt ++ "/role?role_name=" ++ Percent.encode role).toList = _
  simp [pathOf, userSteps, roleQuery, Url.writeParameters, Url.writeParameter]

theorem parameters?_roleQuery (role : String) :
    Url.parameters? (roleQuery role) = some [("role_name", role)] := by
  have name : Url.IsName "role_name" := by decide
  exact Url.parameters?_of_written String.toList_ofList (List.forall_mem_singleton.mpr name)
    (List.cons_ne_nil _ _)

theorem query?_assignRole (user : Int64) (role : String) :
    Url.query? (url (Path.assignRole user role)) = some (roleQuery role) := by
  have name : Url.IsName "role_name" := by decide
  rw [assignRole_path]
  exact Url.query?_of_written String.toList_ofList (List.forall_mem_singleton.mpr name)
    (Url.head?_pathOf (List.cons_ne_nil _ _)) (Url.inPath_pathOf (isSegment_roleSteps user))

theorem path_assignRole (user : Int64) (role : String) :
    Url.path (url (Path.assignRole user role)) = pathOf (userSteps user "role") := by
  rw [assignRole_path]
  exact Url.path_url_query (Url.head?_pathOf (List.cons_ne_nil _ _))
    (Url.inPath_pathOf (isSegment_roleSteps user)) _

theorem assignRole_inj {user user' : Int64} {role role' : String}
    (h : Path.assignRole user role = Path.assignRole user' role') : user = user' ∧ role = role' := by
  constructor
  · have paths := path_assignRole user role
    rw [h, path_assignRole] at paths
    have free : ∀ u : Int64, ∀ s ∈ userSteps u "role", '/' ∉ s.toList := fun u s hs slash =>
      (isSegment_roleSteps u s hs '/' slash).1 rfl
    have steps := pathOf_inj (free user') (free user) paths
    simp only [userSteps, List.cons.injEq, and_true, true_and] at steps
    exact (toString_inj steps).symm
  · have queries := query?_assignRole user role
    rw [h, query?_assignRole, Option.some.injEq] at queries
    have read := parameters?_roleQuery role
    rw [← queries, parameters?_roleQuery] at read
    simpa using read.symm

/-! ## Top theorem -/

variable (credential : Option String)

/-- **What is asked is what is read.**  From the query of a list's address its parameters are read back, which
say the page, the number of rows and the sort key that were asked for, and nothing else; from the address that
assigns a role, the role and nothing else.  Two queries give two paths, and so do two roles or two users. -/
theorem parameters_recovered :
    (∀ q : PageQuery, ∃ params, Url.parameters? q.toQueryString = some params ∧ q.Said params ∧
      ∀ q' : PageQuery, q'.Said params → q' = q) ∧
    (∀ q : PageQuery,
      Url.query? ((listUsers q).request credential).url = some q.toQueryString ∧
      Url.query? ((listMyCars q).request credential).url = some q.toQueryString ∧
      ∀ l, Url.query? ((loadRows l q).request credential).url = some q.toQueryString) ∧
    (∀ user role, (Url.query? ((assignRole user role).request credential).url).bind Url.parameters? =
      some [("role_name", role)]) ∧
    (∀ path q q', withQuery path q = withQuery path q' → q = q') ∧
    (∀ user user' role role', Path.assignRole user role = Path.assignRole user' role' →
      user = user' ∧ role = role') := by
  refine ⟨fun q => ?_, fun q => ⟨?_, ?_, fun l => ?_⟩, fun user role => ?_, fun path q q' => withQuery_inj,
    fun user user' role role' => assignRole_inj⟩
  · exact ⟨q.parameters, q.parameters?_toQueryString, q.said_parameters, fun q' said =>
      said.unique q.said_parameters⟩
  · have segment : ∀ s ∈ ["users"], Url.IsSegment s := by decide
    exact query?_withQuery (List.cons_ne_nil _ _) segment q
  · have segment : ∀ s ∈ ["my-cars"], Url.IsSegment s := by decide
    exact query?_withQuery (List.cons_ne_nil _ _) segment q
  · have nonempty : l.steps ≠ [] := by
      cases l <;> exact List.cons_ne_nil _ _
    have sent : (loadRows l q).request credential = _ := request_loadRows l q credential
    rw [sent, Level.collection_eq]
    exact query?_withQuery nonempty l.isSegment_steps q
  · show (Url.query? (url (Path.assignRole user role))).bind Url.parameters? = _
    rw [query?_assignRole, Option.bind_some, parameters?_roleQuery]

end Api

end CarCatalog
