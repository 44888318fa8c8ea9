import CarCatalog.Proofs.Credential.RoundTrip
import CarCatalog.Proofs.Json.Numeral

/-!
# Which subjects are integers

A subject that is a number is what its literal is worked with as: an integer of 64 bits, or a double,
which then has to be such an integer.  A subject that is a text is the integer that it writes.

    identify c = claims.answer n.toInt64?                                (identify_of_number)
    identify c = claims.answer (Text.readInt64 (Text.trim s))            (identify_of_text)

A double may be an integer that the literal is not, so the two need not agree; where they may differ,
and where the literal's own value decides, is what `subject_of_literal` says.
-/

namespace CarCatalog.Claims

/-- A credential whose payload is the text of a value that says these claims. -/
def StatedBy (c : String) (claims : Claims) : Prop :=
  ∃ P bytes j, SecondSegment c P ∧ Base64.decode? P = some bytes ∧ Json.Written j bytes ∧
    Said j claims

/-- Whom claims speak for, if this is their subject. -/
def identity (claims : Claims) (id : Int64) : Identity := ⟨id, claims.roleOf⟩

/-- What is read off the claims when their subject stands for this integer, or for none. -/
def answer (claims : Claims) : Option Int64 → Except Fault Identity
  | some id => .ok (claims.identity id)
  | none => .error .invalidSubject

variable {c : String} {claims : Claims} {n : Numeral} {x : Binary64} {s : String}

/-! ## Lemmas -/

theorem answer_eq_ok_iff {found : Option Int64} {id : Int64} :
    claims.answer found = .ok (claims.identity id) ↔ found = some id := by
  cases found with
  | none =>
    constructor
    · intro h
      cases h
    · intro h
      cases h
  | some other =>
    constructor
    · intro h
      cases h
      rfl
    · intro h
      cases h
      rfl

theorem answer_cases (claims : Claims) (found : Option Int64) :
    (∃ id, claims.answer found = .ok (claims.identity id)) ∨
      claims.answer found = .error .invalidSubject := by
  cases found with
  | none => exact .inr rfl
  | some id => exact .inl ⟨id, rfl⟩

theorem identify_of_parse (h : parse c = .ok claims) :
    identify c = claims.subject.map claims.identity := by
  rw [identify, h]
  cases hs : claims.subject with
  | error fault => simp only [bind, Except.bind, hs]; rfl
  | ok id => simp only [bind, Except.bind, hs]; rfl

theorem identify_of_stated {sub : Json} (exp : Fits claims.exp) (role : Fits claims.role)
    (fits : Fits sub) (stated : StatedBy c { claims with sub := sub }) (found : Option Int64)
    (subject : Claims.subject { claims with sub := sub } = match found with
      | some id => .ok id
      | none => .error .invalidSubject) : identify c = claims.answer found := by
  obtain ⟨P, bytes, j, segment, decoded, written, said⟩ := stated
  have parsed : parse c = .ok { claims with sub := sub } :=
    (parse_eq_ok_iff segment decoded).mpr ⟨j, written, said, fits, exp, role⟩
  rw [identify_of_parse parsed, subject]
  cases found with
  | none => rfl
  | some id => rfl

theorem fits_number (finite : n.toBinary64? = some x) : Fits (.number n) :=
  ⟨Numeral.isSome_toNumber?_of_finite finite, Nat.zero_lt_succ _⟩

theorem identify_of_number (finite : n.toBinary64? = some x) (exp : Fits claims.exp)
    (role : Fits claims.role) (stated : StatedBy c { claims with sub := .number n }) :
    identify c = claims.answer n.toInt64? := by
  refine identify_of_stated exp role (fits_number finite) stated n.toInt64? ?_
  rw [Numeral.toInt64?, subject]
  dsimp only
  cases n.toNumber? with
  | none => rfl
  | some number =>
    cases number with
    | int i => rfl
    | real x => rfl

theorem identify_of_text (exp : Fits claims.exp) (role : Fits claims.role)
    (stated : StatedBy c { claims with sub := .text s }) :
    identify c = claims.answer (Text.readInt64 (Text.trim s)) := by
  refine identify_of_stated exp role (fits_text s) stated (Text.readInt64 (Text.trim s)) ?_
  cases found : Text.readInt64 (Text.trim s) with
  | none => simp only [subject, Json.text, found]
  | some id => simp only [subject, Json.text, found]

theorem answer_int64?_eq_ok_iff (integer : n.IsInteger) {id : Int64} :
    claims.answer (int64? n.int) = .ok (claims.identity id) ↔ n.value = id.toInt := by
  rw [answer_eq_ok_iff, int64?_eq_some, Numeral.value_of_isInteger integer, Int.cast_inj, eq_comm]

/-! ## Administrators -/

/-- An administrator's claims but for the subject. -/
def adminClaims : Claims := ⟨.null, .int 9999999999, .text "Admin"⟩

def credentialFor (sub : Json) : String :=
  credentialOf (.record [("sub", sub), ("exp", .int 9999999999), ("role", .text "Admin")])

theorem fits_adminClaims : Fits adminClaims.exp ∧ Fits adminClaims.role :=
  ⟨⟨by decide, by decide⟩, fits_text "Admin"⟩

theorem statedBy_credentialFor {sub : Json} (writable : sub.Writable) :
    StatedBy (credentialFor sub) { adminClaims with sub := sub } := by
  let members := [("sub", sub), ("exp", .int 9999999999), ("role", .text "Admin")]
  have nodup : (members.map (·.1)).Nodup := by
    show ["sub", "exp", "role"].Nodup
    decide
  have all_writable : (Json.record members).Writable :=
    ⟨rfl, writable, rfl, Json.writable_int _, rfl, Json.writable_text _, trivial⟩
  have said : Said (.record members) { adminClaims with sub := sub } := by
    refine .object (fun m hm => ?_) (Issued.given_of_mem nodup ?_) (Issued.given_of_mem nodup ?_)
      (Issued.given_of_mem nodup ?_)
    · obtain ⟨m, -, rfl⟩ := List.mem_map.mp hm
      rfl
    · exact .head _
    · exact .tail _ (.head _)
    · exact .tail _ (.tail _ (.head _))
  exact ⟨_, _, _, secondSegment_credentialOf _, Base64.decode?_encode .urlSafe false _,
    Json.parse_eq_some_iff.mp (Json.parse_toBytes all_writable), said⟩

theorem identify_credentialFor (whole : Numeral.IsWhole n.whole)
    (finite : n.toBinary64?.isSome = true) :
    identify (credentialFor (.number n)) = adminClaims.answer n.toInt64? := by
  obtain ⟨x, finite⟩ := Option.isSome_iff_exists.mp finite
  obtain ⟨exp, role⟩ := fits_adminClaims
  exact identify_of_number finite exp role (statedBy_credentialFor whole)

theorem identify_credentialFor_text (s : String) : identify (credentialFor (.text s)) =
    adminClaims.answer (Text.readInt64 (Text.trim s)) := by
  obtain ⟨exp, role⟩ := fits_adminClaims
  exact identify_of_text exp role (statedBy_credentialFor (Json.writable_text s))

/-! ## Top theorem -/

/-- **Numbers as subjects.**  An integer is read as itself; only the 1024 integers below -2^63 are
taken for -2^63, which a text with the same digits is not.  Any other literal is read as the double
it stands for, and as itself if it is short. -/
theorem subject_of_literal (literal : n.Spelled (Text.toUtf8 s)) (finite : n.toBinary64? = some x)
    (exp : Fits claims.exp) (role : Fits claims.role)
    (stated : StatedBy c { claims with sub := .number n }) :
    ((∃ id, identify c = .ok (claims.identity id)) ∨ identify c = .error .invalidSubject) ∧
    (n.IsInteger → ∀ id, identify c = .ok (claims.identity id) ↔
      n.value = id.toInt ∨ id = Int64.minValue ∧ -2 ^ 63 - 1024 ≤ n.value ∧ n.value < -2 ^ 63) ∧
    (¬n.IsInteger → ∀ id, identify c = .ok (claims.identity id) ↔
      x.value = id.toInt * Binary64.one) ∧
    (n.IsShort → ∀ id, identify c = .ok (claims.identity id) ↔ n.value = id.toInt) ∧
    (n.IsInteger → ∀ c', StatedBy c' { claims with sub := .text s } →
      ((∃ id, identify c' = .ok (claims.identity id)) ∨
        identify c' = .error .invalidSubject) ∧
      (∀ id, identify c' = .ok (claims.identity id) ↔ n.value = id.toInt) ∧
      (¬(-2 ^ 63 - 1024 ≤ n.value ∧ n.value < -2 ^ 63) → identify c' = identify c)) := by
  have number := identify_of_number finite exp role stated
  have bounds : n.IsInteger → ((-2 ^ 63 - 1024 ≤ n.value ∧ n.value < -2 ^ 63) ↔
      -2 ^ 63 - 1024 ≤ n.int ∧ n.int < -2 ^ 63) := by
    intro integer
    rw [Numeral.value_of_isInteger integer]
    exact_mod_cast Iff.rfl
  refine ⟨?_, fun integer id => ?_, fun other id => ?_, fun short id => ?_,
    fun integer c' stated' => ?_⟩
  · rw [number]
    exact answer_cases claims _
  · rw [number, answer_eq_ok_iff, Numeral.toInt64?_of_isInteger integer finite, bounds integer,
      Numeral.value_of_isInteger integer, Int.cast_inj]
  · rw [number, answer_eq_ok_iff, Numeral.toInt64?_of_not_isInteger other finite,
      Binary64.toInt64?_eq_some]
  · rw [number, answer_eq_ok_iff, Numeral.toInt64?_of_isShort short finite]
  · have text : identify c' = claims.answer (int64? n.int) := by
      rw [identify_of_text exp role stated', Numeral.readInt64_of_spelled integer literal]
    refine ⟨?_, fun id => ?_, fun outside => ?_⟩
    · rw [text]
      exact answer_cases claims _
    · rw [text]
      exact answer_int64?_eq_ok_iff integer
    · have same : int64? n.int = n.toInt64? := by
        refine Option.ext fun id => ?_
        rw [bounds integer] at outside
        rw [Numeral.toInt64?_of_isInteger integer finite, int64?_eq_some, eq_comm,
          or_iff_left fun h => outside h.2]
      rw [text, number, same]

/-- The literal `5.0`. -/
def fivePointZero : Numeral := ⟨false, Numeral.digitsOf 5, Numeral.digitsOf 0, none⟩

/-- `5.0`, `42` and `"42"`. -/
theorem subject_of_literal_whole :
    identify (credentialFor (.number fivePointZero)) = .ok ⟨5, some .admin⟩ ∧
    identify (credentialFor (.int 42)) = .ok ⟨42, some .admin⟩ ∧
    identify (credentialFor (.text "42")) = .ok ⟨42, some .admin⟩ := by
  obtain ⟨exp, role⟩ := fits_adminClaims
  constructor
  · have whole : Numeral.IsWhole fivePointZero.whole := Numeral.isWhole_digitsOf 5
    have literal : fivePointZero.Spelled (Text.toUtf8 "5.0") := Numeral.spelled_printNumeral whole
    obtain ⟨x, finite⟩ : ∃ x, fivePointZero.toBinary64? = some x :=
      Option.isSome_iff_exists.mp (by decide +kernel)
    have value : fivePointZero.value = 5 := by
      show 1 * (((50 : Nat) : ℚ) * 10 ^ (-1 : Int)) = 5
      norm_num
    have short : fivePointZero.IsShort := by
      refine ⟨by decide, by decide, ?_⟩
      rw [value]
      norm_num
    obtain ⟨-, -, -, short_iff, -⟩ :=
      subject_of_literal literal finite exp role (statedBy_credentialFor whole)
    exact (short_iff short 5).mpr value
  · have whole := Numeral.isWhole_ofInt 42
    have literal : (Numeral.ofInt 42).Spelled (Text.toUtf8 "42") :=
      Numeral.spelled_printNumeral whole
    obtain ⟨x, finite⟩ : ∃ x, (Numeral.ofInt 42).toBinary64? = some x :=
      Option.isSome_iff_exists.mp (by decide +kernel)
    have integer : (Numeral.ofInt 42).IsInteger := ⟨rfl, rfl⟩
    have value : (Numeral.ofInt 42).value = 42 := Numeral.value_of_isInteger integer
    obtain ⟨-, integer_iff, -, -, texts⟩ :=
      subject_of_literal literal finite exp role (statedBy_credentialFor whole)
    obtain ⟨-, text_iff, -⟩ := texts integer _ (statedBy_credentialFor (Json.writable_text "42"))
    exact ⟨(integer_iff integer 42).mpr (.inl value), (text_iff 42).mpr value⟩

/-- The literal `5.0000000000000001`. -/
def aboveFive : Numeral :=
  ⟨false, Numeral.digitsOf 5, List.replicate 15 (.ofNat 0) ++ Numeral.digitsOf 1, none⟩

/-- One less than -2^63 and a little more than 5 are no integers of 64 bits, and are taken for some;
as a text the former is not. -/
theorem subject_taken_for_another :
    ((Numeral.ofInt (-9223372036854775809)).value = -2 ^ 63 - 1 ∧
      identify (credentialFor (.int (-9223372036854775809))) =
        .ok ⟨Int64.minValue, some .admin⟩ ∧
      identify (credentialFor (.text "-9223372036854775809")) = .error .invalidSubject) ∧
    aboveFive.value = 5 + 10 ^ (-16 : Int) ∧
      identify (credentialFor (.number aboveFive)) = .ok ⟨5, some .admin⟩ := by
  refine ⟨⟨?_, ?_, ?_⟩, ?_, ?_⟩
  · have int : (Numeral.ofInt (-9223372036854775809)).int = -2 ^ 63 - 1 := by decide +kernel
    have integer : (Numeral.ofInt (-9223372036854775809)).IsInteger := ⟨rfl, rfl⟩
    rw [Numeral.value_of_isInteger integer, int]
    norm_num
  · have found : (Numeral.ofInt (-9223372036854775809)).toInt64? = some Int64.minValue := by
      decide +kernel
    rw [Json.int, identify_credentialFor (Numeral.isWhole_ofInt _) (by decide +kernel), found]
    rfl
  · have found : Text.readInt64 (Text.trim "-9223372036854775809") = none := by decide +kernel
    rw [identify_credentialFor_text, found]
    rfl
  · show 1 * (((50000000000000001 : Nat) : ℚ) * 10 ^ (-16 : Int)) = _
    norm_num
  · have whole : Numeral.IsWhole aboveFive.whole := Numeral.isWhole_digitsOf 5
    have found : aboveFive.toInt64? = some 5 := by decide +kernel
    rw [identify_credentialFor whole (by decide +kernel), found]
    rfl

end CarCatalog.Claims
