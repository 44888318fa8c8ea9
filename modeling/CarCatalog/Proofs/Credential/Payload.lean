import CarCatalog.Proofs.Base64
import CarCatalog.Proofs.Credential
import CarCatalog.Proofs.Json.Writer

/-!
# Which payloads are accepted

Main equations, for a credential whose second segment is `P`:

    '.' ∉ c.toList ↔ Claims.parse c = .error .missingPayload          (parse_eq_missingPayload_iff)
    (∀ a, ¬Base64.Valid a P) ↔ Claims.parse c = .error .base64        (parse_eq_base64_iff)
    P decodes to a text of a value that says `claims`, and they are kept
                             ↔ Claims.parse c = .ok claims            (parse_eq_ok_iff)

What is left is `.json`.  A value says its claims by the names of an object's members, or by the
order of an array's items.
-/

namespace CarCatalog

/-! ## Segments -/

/-- The text between the first dot and the next one or the end. -/
def SecondSegment (credential : String) (segment : List Char) : Prop :=
  ∃ header trailing, credential.toList = header ++ '.' :: (segment ++ trailing) ∧ '.' ∉ header ∧
    '.' ∉ segment ∧ (trailing = [] ∨ ∃ rest, trailing = '.' :: rest)

theorem ne_dot_of_notMem {cs : List Char} (h : '.' ∉ cs) : ∀ c ∈ cs, (c != '.') = true := by
  intro c hc
  rw [bne_iff_ne]
  rintro rfl
  exact h hc

theorem dot_notMem_takeWhile (cs : List Char) : '.' ∉ cs.takeWhile (· != '.') := by
  intro h
  have := List.all_eq_true.mp (List.all_takeWhile (p := (· != '.'))) _ h
  exact absurd this (by decide)

theorem dropWhile_dot (cs : List Char) :
    cs.dropWhile (· != '.') = [] ∨ ∃ rest, cs.dropWhile (· != '.') = '.' :: rest := by
  have head := List.head?_dropWhile_not (· != '.') cs
  cases h : cs.dropWhile (· != '.') with
  | nil => exact .inl rfl
  | cons d rest =>
    rw [h] at head
    have dot : d = '.' := by simpa using head
    exact .inr ⟨rest, by rw [dot]⟩

theorem payload?_eq_none_iff (c : String) : payload? c = none ↔ '.' ∉ c.toList := by
  have parts := List.takeWhile_append_dropWhile (p := (· != '.')) (l := c.toList)
  unfold payload?
  constructor
  · intro h
    rcases dropWhile_dot c.toList with nothing | ⟨rest, hd⟩
    · rw [nothing, List.append_nil] at parts
      rw [← parts]
      exact dot_notMem_takeWhile c.toList
    · rw [hd] at h
      cases h
  · intro h
    rcases dropWhile_dot c.toList with nothing | ⟨rest, hd⟩
    · rw [nothing]
    · rw [hd] at parts
      exact absurd (parts ▸ List.mem_append_right _ List.mem_cons_self) h

theorem payload?_eq_some_iff {c : String} {segment : List Char} :
    payload? c = some segment ↔ SecondSegment c segment := by
  constructor
  · intro h
    have parts := List.takeWhile_append_dropWhile (p := (· != '.')) (l := c.toList)
    unfold payload? at h
    rcases dropWhile_dot c.toList with nothing | ⟨rest, hd⟩
    · rw [nothing] at h
      cases h
    · rw [hd] at h parts
      cases h
      refine ⟨_, rest.dropWhile (· != '.'), ?_, dot_notMem_takeWhile c.toList,
        dot_notMem_takeWhile rest, dropWhile_dot rest⟩
      rw [List.takeWhile_append_dropWhile, parts]
  · rintro ⟨header, trailing, hc, hheader, hsegment, htrailing⟩
    have front : c.toList.dropWhile (· != '.') = '.' :: (segment ++ trailing) := by
      rw [hc, List.dropWhile_append_of_pos (ne_dot_of_notMem hheader)]
      rfl
    rw [payload?, front]
    show some ((segment ++ trailing).takeWhile (· != '.')) = some segment
    rw [List.takeWhile_append_of_pos (ne_dot_of_notMem hsegment)]
    rcases htrailing with rfl | ⟨rest, rfl⟩
    · simp
    · simp

theorem exists_secondSegment {c : String} (h : '.' ∈ c.toList) : ∃ P, SecondSegment c P := by
  cases hp : payload? c with
  | none => exact absurd h ((payload?_eq_none_iff c).mp hp)
  | some P => exact ⟨P, payload?_eq_some_iff.mp hp⟩

/-- A credential with this payload, written without blanks, in its second segment. -/
def credentialWith (header trailing : String) (a : Base64.Alphabet) (padded : Bool)
    (payload : Json) : String :=
  header ++ "." ++ String.ofList (Base64.encode a padded payload.toBytes) ++ trailing

/-- A credential may end after its second segment, or go on behind a dot. -/
def Trails (trailing : String) : Prop := trailing = "" ∨ ∃ rest, trailing = "." ++ rest

theorem secondSegment_credentialWith {header trailing : String} (no_dot : '.' ∉ header.toList)
    (trails : Trails trailing) (a : Base64.Alphabet) (padded : Bool) (payload : Json) :
    SecondSegment (credentialWith header trailing a padded payload)
      (Base64.encode a padded payload.toBytes) := by
  refine ⟨header.toList, trailing.toList, ?_, no_dot, Base64.dot_notMem_encode a padded _, ?_⟩
  · simp [credentialWith]
  · rcases trails with rfl | ⟨rest, rfl⟩
    · exact .inl rfl
    · exact .inr ⟨rest.toList, by simp⟩

theorem secondSegment_credentialOf (payload : Json) : SecondSegment (credentialOf payload)
    (Base64.encode .urlSafe false payload.toBytes) := by
  have no_dot : '.' ∉ "header".toList := by decide
  have trails : Trails ".signature" := .inr ⟨"signature", by decide⟩
  exact secondSegment_credentialWith no_dot trails .urlSafe false payload

namespace Claims

/-! ## Values -/

/-- A value that is taken over as a claim. -/
def Fits (j : Json) : Prop := j.isClean = true ∧ j.depth < 127

structure Kept (c : Claims) : Prop where
  sub : Fits c.sub
  exp : Fits c.exp
  role : Fits c.role

/-- What an object's members give for a name: the value of the only one, or null. -/
inductive Given (members : List (Option String × Json)) (name : String) : Json → Prop
  | member {front back : List (Option String × Json)} {value : Json}
    (split : members = front ++ (some name, value) :: back)
    (once : ∀ m ∈ front ++ back, m.1 ≠ some name) : Given members name value
  | absent (none_such : ∀ m ∈ members, m.1 ≠ some name) : Given members name .null

/-- The claims a value says. -/
inductive Said : Json → Claims → Prop
  | object {members : List (Option String × Json)} {c : Claims}
    (keys : ∀ m ∈ members, m.1.isSome) (sub : Given members "sub" c.sub)
    (exp : Given members "exp" c.exp) (role : Given members "role" c.role) :
    Said (.object members) c
  | array {items : List Json} (few : items.length ≤ 3) :
    Said (.array items) ⟨items.getD 0 .null, items.getD 1 .null, items.getD 2 .null⟩

theorem fits_null : Fits .null := by
  refine ⟨?_, ?_⟩
  · simp [Json.isClean]
  · simp [Json.depth]

theorem value?_eq_some_iff {j v : Json} : value? j = some v ↔ v = j ∧ Fits v := by
  unfold value?
  split
  · next h =>
    rw [Bool.and_eq_true, decide_eq_true_eq] at h
    constructor
    · intro hv
      cases hv
      exact ⟨rfl, h⟩
    · rintro ⟨rfl, -⟩
      rfl
  · next h =>
    rw [Bool.and_eq_true, decide_eq_true_eq] at h
    constructor
    · intro hv
      cases hv
    · rintro ⟨rfl, hv⟩
      exact absurd hv h

/-! ## Members -/

theorem given_iff {members : List (Option String × Json)} {name : String} {v : Json} :
    Given members name v ↔
      members.filter (·.1 == some name) = [(some name, v)] ∨
        members.filter (·.1 == some name) = [] ∧ v = .null := by
  have not_named : ∀ ms : List (Option String × Json),
      ms.filter (·.1 == some name) = [] ↔ ∀ m ∈ ms, m.1 ≠ some name := by
    intro ms
    rw [List.filter_eq_nil_iff]
    simp
  constructor
  · intro h
    cases h with
    | absent none_such => exact .inr ⟨(not_named _).mpr none_such, rfl⟩
    | member split once =>
      rename_i front back
      have hfront := (not_named front).mpr fun m hm => once m (List.mem_append_left _ hm)
      have hback := (not_named back).mpr fun m hm => once m (List.mem_append_right _ hm)
      left
      rw [split, List.filter_append, hfront, List.filter_cons_of_pos (by simp), hback]
      rfl
  · rintro (h | ⟨h, rfl⟩)
    · obtain ⟨front, back, split, hfront, -, hback⟩ := List.filter_eq_cons_iff.mp h
      refine .member split fun m hm => ?_
      rcases List.mem_append.mp hm with hm | hm
      · simpa using hfront m hm
      · exact (not_named back).mp hback m hm
    · exact .absent ((not_named _).mp h)

theorem Given.unique {members : List (Option String × Json)} {name : String} {v w : Json}
    (hv : Given members name v) (hw : Given members name w) : v = w := by
  rcases given_iff.mp hv with single | ⟨nothing, rfl⟩
  · rcases given_iff.mp hw with single' | ⟨nothing, -⟩
    · rw [single] at single'
      cases single'
      rfl
    · rw [single] at nothing
      cases nothing
  · rcases given_iff.mp hw with single | ⟨-, rfl⟩
    · rw [nothing] at single
      cases single
    · rfl

/-- A value says its claims and no others. -/
theorem Said.unique {j : Json} {c c' : Claims} (h : Said j c) (h' : Said j c') : c = c' := by
  cases h with
  | array _ => cases h' with | array _ => rfl
  | object _ sub exp role =>
    cases h' with
    | object _ sub' exp' role' =>
      cases c
      cases c'
      rw [Claims.mk.injEq]
      exact ⟨sub.unique sub', exp.unique exp', role.unique role'⟩

/-- A claim is read off an object that has it once, or not at all. -/
theorem memberField_iff {members : List (Option String × Json)} {name : String} {v : Json} :
    (Json.memberField members name).isSome ∧
        ((Json.memberField members name).getD .absent).orElse .null value? = some v ↔
      Given members name v ∧ Fits v := by
  rw [given_iff]
  unfold Json.memberField
  cases hf : members.filter (·.1 == some name) with
  | nil =>
    show true = true ∧ some Json.null = some v ↔ _
    constructor
    · rintro ⟨-, h⟩
      cases h
      exact ⟨.inr ⟨rfl, rfl⟩, fits_null⟩
    · rintro ⟨h | ⟨-, rfl⟩, -⟩
      · cases h
      · exact ⟨rfl, rfl⟩
  | cons m ms =>
    have named : m.1 = some name := by
      have : m ∈ members.filter (·.1 == some name) := by rw [hf]; exact List.mem_cons_self
      simpa using (List.mem_filter.mp this).2
    cases ms with
    | nil =>
      show true = true ∧ value? m.2 = some v ↔ _
      rw [value?_eq_some_iff]
      constructor
      · rintro ⟨-, rfl, fits⟩
        exact ⟨.inl (by rw [← named]), fits⟩
      · rintro ⟨h | ⟨h, -⟩, fits⟩
        · cases h
          exact ⟨rfl, rfl, fits⟩
        · cases h
    | cons m' ms =>
      constructor
      · rintro ⟨h, -⟩
        cases h
      · rintro ⟨h | ⟨h, -⟩, -⟩
        · cases h
        · cases h

theorem itemField_eq (items : List Json) (i : Nat) :
    (Json.itemField items i).orElse .null value? = value? (items.getD i .null) := by
  unfold Json.itemField
  rw [List.getD_eq_getElem?_getD]
  cases items[i]? with
  | some j => rfl
  | none =>
    show some Json.null = value? .null
    rw [value?_eq_some_iff.mpr ⟨rfl, fits_null⟩]

/-- The claims of a value, when its fields are read as claims. -/
theorem ofJson?_of_fields {j : Json} {field : String → Field} {c : Claims}
    (h : j.fields ["sub", "exp", "role"] = some field) :
    ofJson? j = some c ↔
      (field "sub").orElse .null value? = some c.sub ∧
        (field "exp").orElse .null value? = some c.exp ∧
          (field "role").orElse .null value? = some c.role := by
  simp only [ofJson?, h, Option.bind_eq_bind, Option.bind_some, Option.bind_eq_some_iff,
    Option.pure_def, Option.some.injEq]
  constructor
  · rintro ⟨sub, hsub, exp, hexp, role, hrole, rfl⟩
    exact ⟨hsub, hexp, hrole⟩
  · rintro ⟨hsub, hexp, hrole⟩
    exact ⟨_, hsub, _, hexp, _, hrole, rfl⟩

theorem ofJson?_of_no_fields {j : Json} (h : j.fields ["sub", "exp", "role"] = none) :
    ofJson? j = none := by
  rw [ofJson?, h]
  rfl

theorem ofJson?_object_iff {members : List (Option String × Json)} {c : Claims} :
    ofJson? (.object members) = some c ↔ Said (.object members) c ∧ c.Kept := by
  -- the fields of an object are read name by name
  have named : ∀ {name v}, (Json.memberField members name).isSome ∧
      ((Json.memberField members name).getD .absent).orElse .null value? = some v ↔
        Given members name v ∧ Fits v := memberField_iff
  constructor
  · intro h
    cases hf : (Json.object members).fields ["sub", "exp", "role"] with
    | none => rw [ofJson?_of_no_fields hf] at h; cases h
    | some field =>
      obtain ⟨hsub, hexp, hrole⟩ := (ofJson?_of_fields hf).mp h
      rw [Json.fields] at hf
      split at hf
      · next hall =>
        cases hf
        simp only [Bool.and_eq_true, List.all_eq_true, List.mem_cons, List.not_mem_nil, or_false,
          forall_eq_or_imp, forall_eq] at hall
        obtain ⟨keys, ssub, sexp, srole⟩ := hall
        obtain ⟨gsub, fsub⟩ := named.mp ⟨ssub, hsub⟩
        obtain ⟨gexp, fexp⟩ := named.mp ⟨sexp, hexp⟩
        obtain ⟨grole, frole⟩ := named.mp ⟨srole, hrole⟩
        exact ⟨.object keys gsub gexp grole, ⟨fsub, fexp, frole⟩⟩
      · cases hf
  · rintro ⟨said, fsub, fexp, frole⟩
    cases said with
    | object keys gsub gexp grole =>
      obtain ⟨ssub, hsub⟩ := named.mpr ⟨gsub, fsub⟩
      obtain ⟨sexp, hexp⟩ := named.mpr ⟨gexp, fexp⟩
      obtain ⟨srole, hrole⟩ := named.mpr ⟨grole, frole⟩
      have hf : (Json.object members).fields ["sub", "exp", "role"] =
          some fun name => (Json.memberField members name).getD .absent := by
        rw [Json.fields, if_pos]
        simp only [Bool.and_eq_true, List.all_eq_true, List.mem_cons, List.not_mem_nil, or_false,
          forall_eq_or_imp, forall_eq]
        exact ⟨keys, ssub, sexp, srole⟩
      exact (ofJson?_of_fields hf).mpr ⟨hsub, hexp, hrole⟩

theorem ofJson?_array_iff {items : List Json} {c : Claims} :
    ofJson? (.array items) = some c ↔ Said (.array items) c ∧ c.Kept := by
  by_cases few : items.length ≤ 3
  · have hf : (Json.array items).fields ["sub", "exp", "role"] =
        some fun name => Json.itemField items (["sub", "exp", "role"].idxOf name) := by
      rw [Json.fields]
      exact if_pos few
    have places : ["sub", "exp", "role"].idxOf "sub" = 0 ∧
        ["sub", "exp", "role"].idxOf "exp" = 1 ∧ ["sub", "exp", "role"].idxOf "role" = 2 := by
      decide
    obtain ⟨zero, one, two⟩ := places
    rw [ofJson?_of_fields hf, zero, one, two, itemField_eq, itemField_eq, itemField_eq,
      value?_eq_some_iff, value?_eq_some_iff, value?_eq_some_iff]
    constructor
    · rintro ⟨⟨hsub, fsub⟩, ⟨hexp, fexp⟩, hrole, frole⟩
      refine ⟨?_, fsub, fexp, frole⟩
      have said := Said.array few
      rwa [← hsub, ← hexp, ← hrole] at said
    · rintro ⟨said, fsub, fexp, frole⟩
      cases said with
      | array _ => exact ⟨⟨rfl, fsub⟩, ⟨rfl, fexp⟩, rfl, frole⟩
  · have hf : (Json.array items).fields ["sub", "exp", "role"] = none := by
      rw [Json.fields]
      exact if_neg few
    rw [ofJson?_of_no_fields hf]
    constructor
    · intro h
      cases h
    · rintro ⟨said, -⟩
      cases said with
      | array hfew => exact absurd hfew few

/-- The claims of a value are those it says, when each of them fits. -/
theorem ofJson?_eq_some_iff {j : Json} {c : Claims} :
    ofJson? j = some c ↔ Said j c ∧ c.Kept := by
  cases j with
  | object members => exact ofJson?_object_iff
  | array items => exact ofJson?_array_iff
  | _ =>
    constructor
    · intro h
      cases h
    · rintro ⟨said, -⟩
      cases said

/-! ## Credentials -/

/-- Bytes that are the text of a value that says these claims. -/
def SaidIn (bytes : Bytes) (c : Claims) : Prop := ∃ j, Json.Written j bytes ∧ Said j c ∧ c.Kept

theorem read_eq_some_iff {bytes : Bytes} {c : Claims} :
    (Json.parse bytes).bind ofJson? = some c ↔ SaidIn bytes c := by
  simp only [Option.bind_eq_some_iff, Json.parse_eq_some_iff, ofJson?_eq_some_iff]
  exact Iff.rfl

theorem parse_of_no_dot {c : String} (h : '.' ∉ c.toList) : parse c = .error .missingPayload := by
  rw [parse, (payload?_eq_none_iff c).mpr h]

theorem parse_of_invalid {c : String} {P : List Char} (h : SecondSegment c P)
    (invalid : Base64.decode? P = none) : parse c = .error .base64 := by
  rw [parse, payload?_eq_some_iff.mpr h]
  simp only [invalid]

theorem parse_of_decoded {c : String} {P : List Char} {bytes : Bytes} (h : SecondSegment c P)
    (decoded : Base64.decode? P = some bytes) :
    parse c = match (Json.parse bytes).bind ofJson? with
      | none => .error .json
      | some claims => .ok claims := by
  rw [parse, payload?_eq_some_iff.mpr h]
  cases hr : (Json.parse bytes).bind ofJson? with
  | none => simp only [decoded, hr]
  | some claims => simp only [decoded, hr]

theorem parse_eq_missingPayload_iff (c : String) :
    parse c = .error .missingPayload ↔ '.' ∉ c.toList := by
  constructor
  · intro h dot
    obtain ⟨P, hP⟩ := exists_secondSegment dot
    cases hd : Base64.decode? P with
    | none => rw [parse_of_invalid hP hd] at h; cases h
    | some bytes =>
      rw [parse_of_decoded hP hd] at h
      split at h
      · cases h
      · cases h
  · exact parse_of_no_dot

theorem parse_eq_base64_iff {c : String} {P : List Char} (h : SecondSegment c P) :
    parse c = .error .base64 ↔ ∀ a, ¬Base64.Valid a P := by
  rw [← Base64.decode?_eq_none_iff]
  cases hd : Base64.decode? P with
  | none => simp only [parse_of_invalid h hd]
  | some bytes =>
    rw [parse_of_decoded h hd]
    constructor
    · intro hp
      split at hp
      · cases hp
      · cases hp
    · intro hp
      cases hp

theorem parse_eq_ok_iff {c : String} {P : List Char} {bytes : Bytes} (h : SecondSegment c P)
    (decoded : Base64.decode? P = some bytes) {claims : Claims} :
    parse c = .ok claims ↔ SaidIn bytes claims := by
  rw [parse_of_decoded h decoded, ← read_eq_some_iff]
  cases (Json.parse bytes).bind ofJson? with
  | none => simp
  | some claims' => simp

theorem parse_eq_json_iff {c : String} {P : List Char} {bytes : Bytes} (h : SecondSegment c P)
    (decoded : Base64.decode? P = some bytes) :
    parse c = .error .json ↔ ∀ claims, ¬SaidIn bytes claims := by
  rw [parse_of_decoded h decoded]
  cases hr : (Json.parse bytes).bind ofJson? with
  | none =>
    constructor
    · intro _ claims said
      rw [read_eq_some_iff.mpr said] at hr
      cases hr
    · intro _
      rfl
  | some claims =>
    constructor
    · intro hp
      cases hp
    · intro none_said
      exact absurd (read_eq_some_iff.mp hr) (none_said claims)

theorem kept_of_parse {c : String} {claims : Claims} (h : parse c = .ok claims) : claims.Kept := by
  have dot : '.' ∈ c.toList := by
    refine Decidable.byContradiction fun no_dot => ?_
    rw [parse_of_no_dot no_dot] at h
    cases h
  obtain ⟨P, segment⟩ := exists_secondSegment dot
  cases decoded : Base64.decode? P with
  | none =>
    rw [parse_of_invalid segment decoded] at h
    cases h
  | some bytes =>
    obtain ⟨j, -, -, kept⟩ := (parse_eq_ok_iff segment decoded).mp h
    exact kept

theorem saidIn_toBytes {payload : Json} (writable : payload.Writable) {c : Claims} :
    SaidIn payload.toBytes c ↔ Said payload c ∧ c.Kept := by
  rw [← read_eq_some_iff, Json.parse_toBytes writable, Option.bind_some, ofJson?_eq_some_iff]

theorem parse_credentialWith {header trailing : String} (no_dot : '.' ∉ header.toList)
    (trails : Trails trailing) (a : Base64.Alphabet) (padded : Bool) {payload : Json}
    (writable : payload.Writable) {c : Claims} :
    parse (credentialWith header trailing a padded payload) = .ok c ↔ Said payload c ∧ c.Kept := by
  have segment := secondSegment_credentialWith no_dot trails a padded payload
  rw [parse_eq_ok_iff segment (Base64.decode?_encode a padded _), saidIn_toBytes writable]

/-! ## Top theorem -/

/-- **What is accepted, and how the rest is told apart.**  The alphabets do not disagree on a
segment that is valid in both. -/
theorem parse_classified (c : String) :
    (parse c = .error .missingPayload ↔ '.' ∉ c.toList) ∧
    ('.' ∈ c.toList → ∃ P, SecondSegment c P) ∧
    ∀ P, SecondSegment c P →
      (parse c = .error .base64 ↔ ∀ a, ¬Base64.Valid a P) ∧
      (∀ a, Base64.Valid a P → ∃ bytes, Base64.decodeIn a P = some bytes ∧
        (∀ b, Base64.Valid b P → Base64.decodeIn b P = some bytes) ∧
        (parse c = .error .json ↔ ∀ claims, ¬SaidIn bytes claims) ∧
        ∀ claims, parse c = .ok claims ↔ SaidIn bytes claims) := by
  refine ⟨parse_eq_missingPayload_iff c, exists_secondSegment, fun P hP =>
    ⟨parse_eq_base64_iff hP, fun a valid => ?_⟩⟩
  obtain ⟨bytes, hb⟩ := Option.isSome_iff_exists.mp ((Base64.isSome_decodeIn_iff a P).mpr valid)
  have decoded := Base64.decode?_of_decodeIn hb
  refine ⟨bytes, hb, fun b valid' => ?_, parse_eq_json_iff hP decoded,
    fun claims => parse_eq_ok_iff hP decoded⟩
  obtain ⟨bytes', hb'⟩ := Option.isSome_iff_exists.mp ((Base64.isSome_decodeIn_iff b P).mpr valid')
  rw [hb', Base64.decodeIn_agree hb' hb]

/-- A payload that is an array: subject 5, an expiry, and the role of an administrator. -/
def arrayPayload : Json := .array [.int 5, .int 9999999999, .text "Admin"]

/-- A payload need not be an object. -/
theorem array_accepted :
    ∃ P bytes, SecondSegment (credentialOf arrayPayload) P ∧
      Base64.decodeIn .urlSafe P = some bytes ∧ (∀ members, ¬Json.Written (.object members) bytes) ∧
      parse (credentialOf arrayPayload) = .ok ⟨.int 5, .int 9999999999, .text "Admin"⟩ := by
  have no_dot : '.' ∉ "header".toList := by decide
  have trails : Trails ".signature" := .inr ⟨"signature", by decide⟩
  have writable : arrayPayload.Writable :=
    ⟨Json.writable_int 5, Json.writable_int 9999999999, Json.writable_text "Admin", trivial⟩
  refine ⟨_, _, secondSegment_credentialWith no_dot trails .urlSafe false arrayPayload,
    Base64.decodeIn_encode _ _ _, fun members written => ?_, ?_⟩
  · have := Json.parse_eq_some_iff.mpr written
    rw [Json.parse_toBytes writable] at this
    cases this
  · refine (parse_credentialWith no_dot trails .urlSafe false writable).mpr ⟨.array (by decide), ?_⟩
    exact ⟨⟨by decide, by decide⟩, ⟨by decide, by decide⟩, by decide, by decide⟩

end Claims

end CarCatalog
