import CarCatalog.Proofs.Credential.Subject
import Mathlib.Data.List.Nodup

/-!
# What one claim is to another

Who a credential speaks for is read off `sub` and `role`, when it expires off `exp`.  But the three are
taken over together, and a payload with one that cannot be taken over (`Takes`) is refused whole.

    parse c = .ok claims ↔ Said (.object ms) claims ∧ claims.Kept    (parse_eq_ok_of_carries)
    identify c = .error .json ↔ a name is no text,
      or a claim is not taken over                                   (identify_eq_json_iff)

So a claim may be replaced without the others noticing as long as both values are taken over
(`claims_apart`), and a number that is too large hides all three (`claims_hidden`).
-/

namespace CarCatalog.Claims

/-- A credential whose payload is the text of an object with these members. -/
def Carries (c : String) (members : List (Option String × Json)) : Prop :=
  ∃ P bytes, SecondSegment c P ∧ Base64.decode? P = some bytes ∧ Json.Written (.object members) bytes

/-- No name is given twice. -/
def Distinct (members : List (Option String × Json)) : Prop := (members.filterMap (·.1)).Nodup

/-- Whether a member has none of these names. -/
def isOther (names : List String) (m : Option String × Json) : Bool := m.1 ∉ names.map some

/-- The same members, but that those of some names may be others, or missing. -/
def SameBut (names : List String) (ms ms' : List (Option String × Json)) : Prop :=
  ms.filter (isOther names) = ms'.filter (isOther names)

/-- What is given for a name is taken over: it is clean, and does not nest too deep. -/
def Takes (members : List (Option String × Json)) (name : String) : Prop :=
  ∀ v, Given members name v → Fits v

variable {c c' : String} {claims : Claims} {ms ms' : List (Option String × Json)}
  {name : String} {names : List String} {v w : Json}

/-! ## Lemmas -/

/-! ### Members -/

theorem exists_given (distinct : Distinct ms) (name : String) : ∃ v, Given ms name v := by
  by_cases h : ∃ m ∈ ms, m.1 = some name
  · obtain ⟨⟨key, v⟩, hm, rfl⟩ := h
    obtain ⟨front, back, rfl⟩ := List.append_of_mem hm
    have once : name ∉ (front ++ back).filterMap (·.1) := by
      rw [Distinct, List.filterMap_append, List.filterMap_cons, List.nodup_middle,
        ← List.filterMap_append] at distinct
      exact (List.nodup_cons.mp distinct).1
    exact ⟨v, .member rfl fun m hm same => once (List.mem_filterMap.mpr ⟨m, hm, same⟩)⟩
  · exact ⟨.null, .absent fun m hm same => h ⟨m, hm, same⟩⟩

theorem takes_iff (h : Given ms name v) : Takes ms name ↔ Fits v :=
  ⟨fun takes => takes v h, fun fits _ h' => h.unique h' ▸ fits⟩

/-- Other members say nothing about a name. -/
theorem given_filter_iff (other : name ∉ names) :
    Given (ms.filter (isOther names)) name v ↔ Given ms name v := by
  have same : (ms.filter (isOther names)).filter (·.1 == some name) =
      ms.filter (·.1 == some name) := by
    rw [List.filter_filter]
    refine List.filter_congr fun m _ => ?_
    by_cases h : m.1 = some name
    · simp [isOther, h, other]
    · simp [h]
  rw [given_iff, given_iff, same]

theorem SameBut.given_iff (same : SameBut names ms ms') (other : name ∉ names) :
    Given ms name v ↔ Given ms' name v := by
  rw [← given_filter_iff other, same, given_filter_iff other]

theorem SameBut.takes_iff (same : SameBut names ms ms') (other : name ∉ names) :
    Takes ms name ↔ Takes ms' name :=
  forall_congr' fun _ => imp_congr_left (same.given_iff other)

/-- A member whose name is no text has none of the names. -/
theorem keys_filter_iff :
    (∀ m ∈ ms.filter (isOther names), m.1.isSome) ↔ ∀ m ∈ ms, m.1.isSome := by
  constructor
  · intro h m hm
    cases key : m.1 with
    | some k => rfl
    | none =>
      have kept : m ∈ ms.filter (isOther names) :=
        List.mem_filter.mpr ⟨hm, by simp [isOther, key]⟩
      have := h m kept
      rwa [key] at this
  · exact fun h m hm => h m (List.mem_filter.mp hm).1

theorem SameBut.keys_iff (same : SameBut names ms ms') :
    (∀ m ∈ ms, m.1.isSome) ↔ ∀ m ∈ ms', m.1.isSome := by
  rw [← @keys_filter_iff ms names, same, keys_filter_iff]

/-! ### Payloads -/

theorem parse_eq_ok_of_carries (carries : Carries c ms) :
    parse c = .ok claims ↔ Said (.object ms) claims ∧ claims.Kept := by
  obtain ⟨P, bytes, segment, decoded, written⟩ := carries
  rw [parse_eq_ok_iff segment decoded, ← read_eq_some_iff, Json.parse_eq_some_iff.mpr written]
  exact ofJson?_eq_some_iff

/-- A payload that is an object is read, or refused with one fault only. -/
theorem parse_of_carries (carries : Carries c ms) :
    (∃ claims, parse c = .ok claims) ∨ parse c = .error .json := by
  obtain ⟨P, bytes, segment, decoded, -⟩ := carries
  rw [parse_of_decoded segment decoded]
  cases (Json.parse bytes).bind ofJson? with
  | none => exact .inr rfl
  | some claims => exact .inl ⟨claims, rfl⟩

/-- What an object says is read if its names are texts and its claims are taken over. -/
theorem exists_parse_iff (carries : Carries c ms) (distinct : Distinct ms) :
    (∃ claims, parse c = .ok claims) ↔
      (∀ m ∈ ms, m.1.isSome) ∧ Takes ms "sub" ∧ Takes ms "exp" ∧ Takes ms "role" := by
  obtain ⟨s, sub⟩ := exists_given distinct "sub"
  obtain ⟨e, exp⟩ := exists_given distinct "exp"
  obtain ⟨r, role⟩ := exists_given distinct "role"
  simp only [parse_eq_ok_of_carries carries]
  rw [takes_iff sub, takes_iff exp, takes_iff role]
  constructor
  · rintro ⟨claims, said, kept⟩
    cases said with
    | object keys sub' exp' role' =>
      rw [sub.unique sub', exp.unique exp', role.unique role']
      exact ⟨keys, kept.sub, kept.exp, kept.role⟩
  · rintro ⟨keys, fsub, fexp, frole⟩
    exact ⟨⟨s, e, r⟩, .object keys sub exp role, ⟨fsub, fexp, frole⟩⟩

theorem identify_of_fault {fault : Fault} (h : parse c = .error fault) :
    identify c = .error fault := by
  rw [identify, h]
  rfl

theorem isExpired_of_parse (h : parse c = .ok claims) (now : Int64) :
    isExpired c now = match claims.expiry with
      | .ok exp => (exp.mul (.ofNat 1000)).lt (.ofInt now.toInt)
      | .error _ => true := by
  rw [isExpired, h]
  rfl

theorem identify_ne_json (h : parse c = .ok claims) : identify c ≠ .error .json := by
  rw [identify_of_parse h]
  unfold subject
  dsimp only
  split
  · intro h
    cases h
  · intro h
    cases h

theorem isExpired_of_identify_json (carries : Carries c ms) (refused : identify c = .error .json)
    (now : Int64) : isExpired c now = true := by
  rcases parse_of_carries carries with ⟨claims, parsed⟩ | fault
  · exact absurd refused (identify_ne_json parsed)
  · rw [isExpired, fault]
    rfl

theorem identify_eq_json_iff (carries : Carries c ms) (distinct : Distinct ms) :
    identify c = .error .json ↔
      (∃ m ∈ ms, m.1 = none) ∨ ∃ name ∈ ["sub", "exp", "role"], ¬Takes ms name := by
  have refused : identify c = .error .json ↔ ¬∃ claims, parse c = .ok claims := by
    constructor
    · rintro h ⟨claims, parsed⟩
      exact identify_ne_json parsed h
    · intro h
      exact identify_of_fault ((parse_of_carries carries).resolve_left h)
  rw [refused, exists_parse_iff carries distinct]
  simp only [not_and_or, not_forall, List.mem_cons, List.not_mem_nil, or_false, exists_eq_or_imp,
    exists_eq_left, exists_prop, Bool.not_eq_true, Option.isSome_eq_false_iff,
    Option.isNone_iff_eq_none]

/-- Two payloads whose names are texts in both or in neither, and whose claims are taken over in both or
in neither, are both read or both refused. -/
theorem parse_cases (carries : Carries c ms) (carries' : Carries c' ms') (distinct : Distinct ms)
    (distinct' : Distinct ms') (keys : (∀ m ∈ ms, m.1.isSome) ↔ ∀ m ∈ ms', m.1.isSome)
    (takes : Takes ms "sub" ∧ Takes ms "exp" ∧ Takes ms "role" ↔
      Takes ms' "sub" ∧ Takes ms' "exp" ∧ Takes ms' "role") :
    (∃ claims claims', parse c = .ok claims ∧ parse c' = .ok claims') ∨
      parse c = .error .json ∧ parse c' = .error .json := by
  have both : (∃ claims, parse c = .ok claims) ↔ ∃ claims, parse c' = .ok claims := by
    rw [exists_parse_iff carries distinct, exists_parse_iff carries' distinct', keys, takes]
  rcases parse_of_carries carries with ⟨claims, parsed⟩ | fault
  · obtain ⟨claims', parsed'⟩ := both.mp ⟨claims, parsed⟩
    exact .inl ⟨claims, claims', parsed, parsed'⟩
  · refine .inr ⟨fault, (parse_of_carries carries').resolve_left fun h => ?_⟩
    obtain ⟨claims, parsed⟩ := both.mpr h
    rw [fault] at parsed
    cases parsed

/-- Claims that are read are those that are given. -/
theorem given_of_parse (carries : Carries c ms) (h : parse c = .ok claims) :
    Given ms "sub" claims.sub ∧ Given ms "exp" claims.exp ∧ Given ms "role" claims.role := by
  obtain ⟨said, -⟩ := (parse_eq_ok_of_carries carries).mp h
  cases said with
  | object _ sub exp role => exact ⟨sub, exp, role⟩

/-! ### Administrators -/

/-- The members of an administrator's payload. -/
def adminMembers (sub exp : Json) : List (Option String × Json) :=
  [(some "sub", sub), (some "exp", exp), (some "role", .text "Admin")]

def adminCredentialOf (sub exp : Json) : String := credentialOf (.object (adminMembers sub exp))

variable {sub exp : Json}

theorem carries_admin (hsub : sub.Writable) (hexp : exp.Writable) :
    Carries (adminCredentialOf sub exp) (adminMembers sub exp) := by
  have writable : (Json.object (adminMembers sub exp)).Writable :=
    ⟨rfl, hsub, rfl, hexp, rfl, Json.writable_text _, trivial⟩
  exact ⟨_, _, secondSegment_credentialOf _, Base64.decode?_encode .urlSafe false _,
    Json.parse_eq_some_iff.mp (Json.parse_toBytes writable)⟩

theorem distinct_admin : Distinct (adminMembers sub exp) := by
  show ["sub", "exp", "role"].Nodup
  decide

theorem given_admin (sub exp : Json) : Given (adminMembers sub exp) "sub" sub ∧
    Given (adminMembers sub exp) "exp" exp ∧
      Given (adminMembers sub exp) "role" (.text "Admin") := by
  have nodup : (([("sub", sub), ("exp", exp), ("role", .text "Admin")] : List (String × Json)).map
      (·.1)).Nodup := by
    show ["sub", "exp", "role"].Nodup
    decide
  refine ⟨Issued.given_of_mem nodup ?_, Issued.given_of_mem nodup ?_,
    Issued.given_of_mem nodup ?_⟩
  · exact .head _
  · exact .tail _ (.head _)
  · exact .tail _ (.tail _ (.head _))

theorem parse_admin (hsub : sub.Writable) (hexp : exp.Writable) (fsub : Fits sub) (fexp : Fits exp) :
    parse (adminCredentialOf sub exp) = .ok ⟨sub, exp, .text "Admin"⟩ := by
  obtain ⟨gsub, gexp, grole⟩ := given_admin sub exp
  refine (parse_eq_ok_of_carries (carries_admin hsub hexp)).mpr
    ⟨.object (fun m hm => ?_) gsub gexp grole, fsub, fexp, fits_text "Admin"⟩
  simp only [adminMembers, List.mem_cons, List.not_mem_nil, or_false] at hm
  rcases hm with rfl | rfl | rfl
  · rfl
  · rfl
  · rfl

/-! ## Top theorem -/

/-- **A claim and the others.**  Whom a credential speaks for does not depend on what is given for `exp`,
nor whether it is expired on what is given for `sub` and `role`, as long as that is taken over before
and after, or neither time.  What is not taken over hides all the claims. -/
theorem claims_apart (carries : Carries c ms) (carries' : Carries c' ms') (distinct : Distinct ms)
    (distinct' : Distinct ms') :
    (SameBut ["exp"] ms ms' → (Takes ms "exp" ↔ Takes ms' "exp") → identify c' = identify c) ∧
    (SameBut ["sub", "role"] ms ms' →
      (Takes ms "sub" ∧ Takes ms "role" ↔ Takes ms' "sub" ∧ Takes ms' "role") →
        ∀ now, isExpired c' now = isExpired c now) ∧
    (identify c = .error .json ↔
      (∃ m ∈ ms, m.1 = none) ∨ ∃ name ∈ ["sub", "exp", "role"], ¬Takes ms name) ∧
    (identify c = .error .json → ∀ now, isExpired c now = true) := by
  refine ⟨fun same takes => ?_, fun same takes now => ?_, identify_eq_json_iff carries distinct,
    isExpired_of_identify_json carries⟩
  · have sub : Takes ms "sub" ↔ Takes ms' "sub" := same.takes_iff (by decide)
    have role : Takes ms "role" ↔ Takes ms' "role" := same.takes_iff (by decide)
    rcases parse_cases carries carries' distinct distinct' same.keys_iff
      (by rw [sub, takes, role]) with ⟨claims, claims', parsed, parsed'⟩ | ⟨fault, fault'⟩
    · obtain ⟨gsub, -, grole⟩ := given_of_parse carries parsed
      obtain ⟨gsub', -, grole'⟩ := given_of_parse carries' parsed'
      have sub_eq := ((same.given_iff (by decide)).mp gsub).unique gsub'
      have role_eq := ((same.given_iff (by decide)).mp grole).unique grole'
      have subject_eq : claims.subject = claims'.subject := by simp only [subject, sub_eq]
      have identity_eq : claims.identity = claims'.identity := by
        funext id
        simp only [identity, roleOf, role_eq]
      rw [identify_of_parse parsed, identify_of_parse parsed', subject_eq, identity_eq]
    · rw [identify_of_fault fault, identify_of_fault fault']
  · have exp : Takes ms "exp" ↔ Takes ms' "exp" := same.takes_iff (by decide)
    rcases parse_cases carries carries' distinct distinct' same.keys_iff
      (by rw [exp]; tauto) with ⟨claims, claims', parsed, parsed'⟩ | ⟨fault, fault'⟩
    · obtain ⟨-, gexp, -⟩ := given_of_parse carries parsed
      obtain ⟨-, gexp', -⟩ := given_of_parse carries' parsed'
      have exp_eq := ((same.given_iff (by decide)).mp gexp).unique gexp'
      rw [isExpired_of_parse parsed, isExpired_of_parse parsed']
      simp only [expiry, exp_eq]
    · rw [isExpired, isExpired, fault, fault']

/-- An expiry that is no number but a text. -/
theorem claims_apart_text :
    identify (adminCredentialOf (.int 5) (.text "soon")) =
      identify (adminCredentialOf (.int 5) (.int 9999999999)) := by
  obtain ⟨-, number, -⟩ := given_admin (.int 5) (.int 9999999999)
  obtain ⟨-, text, -⟩ := given_admin (.int 5) (.text "soon")
  have fits : Fits (.int 9999999999) := ⟨by decide, by decide⟩
  obtain ⟨replaced, -⟩ := claims_apart
    (carries_admin (Json.writable_int 5) (Json.writable_int 9999999999))
    (carries_admin (Json.writable_int 5) (Json.writable_text "soon")) distinct_admin distinct_admin
  exact replaced rfl (iff_of_true ((takes_iff number).mpr fits) ((takes_iff text).mpr (fits_text _)))

/-- The literal `1e999`. -/
def tooLarge : Numeral := ⟨false, Numeral.digitsOf 1, [], some 999⟩

/-- A number that is too large hides a good subject, as an expiry, and a good expiry, as a subject. -/
theorem claims_hidden :
    (Carries (adminCredentialOf (.int 5) (.number tooLarge))
        (adminMembers (.int 5) (.number tooLarge)) ∧
      Distinct (adminMembers (.int 5) (.number tooLarge)) ∧
      identify (adminCredentialOf (.int 5) (.int 9999999999)) = .ok ⟨5, some .admin⟩ ∧
      identify (adminCredentialOf (.int 5) (.number tooLarge)) = .error .json) ∧
    Carries (adminCredentialOf (.number tooLarge) (.int 9999999999))
      (adminMembers (.number tooLarge) (.int 9999999999)) ∧
    Distinct (adminMembers (.number tooLarge) (.int 9999999999)) ∧
    isExpired (adminCredentialOf (.int 5) (.int 9999999999)) 0 = false ∧
    isExpired (adminCredentialOf (.number tooLarge) (.int 9999999999)) 0 = true := by
  have writable : (Json.number tooLarge).Writable := Numeral.isWhole_digitsOf 1
  have unfit : ¬Fits (.number tooLarge) := by
    rintro ⟨clean, -⟩
    revert clean
    decide +kernel
  have good := parse_admin (Json.writable_int 5) (Json.writable_int 9999999999)
    ⟨by decide, by decide⟩ ⟨by decide, by decide⟩
  have asExpiry := carries_admin (Json.writable_int 5) writable
  have asSubject := carries_admin writable (Json.writable_int 9999999999)
  refine ⟨⟨asExpiry, distinct_admin, ?_, ?_⟩, asSubject, distinct_admin, ?_, ?_⟩
  · rw [identify_of_parse good]
    rfl
  · obtain ⟨-, given, -⟩ := given_admin (.int 5) (.number tooLarge)
    refine (identify_eq_json_iff asExpiry distinct_admin).mpr (.inr ⟨"exp", by decide, ?_⟩)
    rwa [takes_iff given]
  · rw [isExpired_of_parse good]
    decide +kernel
  · obtain ⟨given, -, -⟩ := given_admin (.number tooLarge) (.int 9999999999)
    have refused := (identify_eq_json_iff asSubject distinct_admin).mpr
      (.inr ⟨"sub", by decide, by rwa [takes_iff given]⟩)
    exact isExpired_of_identify_json asSubject refused 0

end CarCatalog.Claims
