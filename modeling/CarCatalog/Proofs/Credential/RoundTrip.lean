import CarCatalog.Proofs.Credential.Payload

/-!
# What an issuer writes is read back

An issued credential states an id, as a number or as a text, an expiry, and a role, which it may
leave out or give as null.  Its members may come in any order.

    identify (credentialWith header trailing a padded (.record members)) = .ok i.identity
                                                                            (identify_issued)

for every `members` in the order of `i.members` or another, if the expiry is one that a number of
the payload can carry.
-/

namespace CarCatalog

/-! ## Integers -/

/-- An integer of 64 bits, signed or not, is kept as it is. -/
theorem Numeral.toNumber?_ofInt {i : Int} (lo : Int64.minValue.toInt ≤ i) (hi : i < UInt64.size) :
    (Numeral.ofInt i).toNumber? = some (.int i) := by
  have within : (decide (Int64.minValue.toInt ≤ i) && decide (i < (UInt64.size : Int))) = true := by
    rw [Bool.and_eq_true, decide_eq_true_eq, decide_eq_true_eq]
    exact ⟨lo, hi⟩
  rw [toNumber?, toInt?_ofInt]
  exact if_pos within

theorem Numeral.toNumber?_ofInt64 (i : Int64) :
    (Numeral.ofInt i.toInt).toNumber? = some (.int i.toInt) := by
  have size : (UInt64.size : Int) = 18446744073709551616 := rfl
  have largest : Int64.maxValue.toInt = 9223372036854775807 := rfl
  have hi := Int64.toInt_le i
  exact toNumber?_ofInt (Int64.minValue_le_toInt i) (by omega)

namespace Claims

theorem fits_text (s : String) : Fits (.text s) := ⟨rfl, Nat.zero_lt_succ _⟩

theorem fits_int_iff (i : Int) : Fits (.int i) ↔ (Numeral.ofInt i).toNumber?.isSome = true := by
  constructor
  · intro h
    exact h.1
  · intro h
    exact ⟨h, Nat.zero_lt_succ _⟩

end Claims

/-! ## Issued credentials -/

inductive RoleClaim
  | leftOut
  | null
  | label (text : String)
  deriving DecidableEq, Repr

structure Issued where
  id : Int64
  idAsText : Bool
  exp : Int
  role : RoleClaim
  deriving DecidableEq, Repr

namespace Issued

def subClaim (i : Issued) : Json :=
  if i.idAsText then .text (toString i.id.toInt) else .int i.id.toInt

def roleMembers (i : Issued) : List (String × Json) :=
  match i.role with
  | .leftOut => []
  | .null => [("role", .null)]
  | .label text => [("role", .text text)]

def members (i : Issued) : List (String × Json) :=
  ("sub", i.subClaim) :: ("exp", .int i.exp) :: i.roleMembers

def roleClaim (i : Issued) : Json :=
  match i.role with
  | .label text => .text text
  | _ => .null

def claims (i : Issued) : Claims := ⟨i.subClaim, .int i.exp, i.roleClaim⟩

/-- An empty label stands for no role. -/
def identity (i : Issued) : Identity :=
  ⟨i.id, match i.role with
    | .label text => if text = "" then none else some (.ofLabel text)
    | _ => none⟩

/-- Whether the expiry is a number that a payload can carry: 64 bits, or finite as a double. -/
def Carried (i : Issued) : Prop := (Numeral.ofInt i.exp).toNumber?.isSome

/-! ## Lemmas -/

theorem carried_of_range {i : Issued} (lo : Int64.minValue.toInt ≤ i.exp)
    (hi : i.exp < UInt64.size) : i.Carried := by
  rw [Carried, Numeral.toNumber?_ofInt lo hi]
  rfl

theorem nodup_names (i : Issued) : (i.members.map (·.1)).Nodup := by
  unfold members roleMembers
  cases i.role
  · show ["sub", "exp"].Nodup
    decide
  · show ["sub", "exp", "role"].Nodup
    decide
  · show ["sub", "exp", "role"].Nodup
    decide

theorem given_of_mem {members : List (String × Json)} (nodup : (members.map (·.1)).Nodup)
    {name : String} {value : Json} (h : (name, value) ∈ members) :
    Claims.Given (members.map fun m => (some m.1, m.2)) name value := by
  obtain ⟨front, back, rfl⟩ := List.append_of_mem h
  have others : ∀ m ∈ front ++ back, m.1 ≠ name := by
    rw [List.map_append, List.map_cons, List.nodup_append] at nodup
    obtain ⟨-, hback, apart⟩ := nodup
    intro m hm
    rcases List.mem_append.mp hm with hm | hm
    · exact apart _ (List.mem_map_of_mem hm) _ List.mem_cons_self
    · intro h
      have again : m.1 ∈ back.map (·.1) := List.mem_map_of_mem hm
      rw [h] at again
      exact (List.nodup_cons.mp hback).1 again
  have split : (front ++ (name, value) :: back).map (fun m => (some m.1, m.2)) =
      front.map (fun m => (some m.1, m.2)) ++ (some name, value) ::
        back.map (fun m => (some m.1, m.2)) := by
    rw [List.map_append, List.map_cons]
  refine .member split fun m hm => ?_
  rw [← List.map_append] at hm
  obtain ⟨m', hm', rfl⟩ := List.mem_map.mp hm
  exact fun h => others m' hm' (Option.some.inj h)

theorem given_role {i : Issued} {members : List (String × Json)} (order : members.Perm i.members) :
    Claims.Given (members.map fun m => (some m.1, m.2)) "role" i.roleClaim := by
  have nodup := (order.map (·.1)).nodup_iff.mpr (nodup_names i)
  have present : ∀ value, i.roleMembers = [("role", value)] →
      Claims.Given (members.map fun m => (some m.1, m.2)) "role" value := by
    intro value h
    refine given_of_mem nodup (order.mem_iff.mpr ?_)
    rw [Issued.members, h]
    simp
  rcases hr : i.role with _ | _ | text
  · have claim : i.roleClaim = .null := by rw [roleClaim, hr]
    have left_out : i.roleMembers = [] := by rw [roleMembers, hr]
    rw [claim]
    refine .absent fun m hm => ?_
    obtain ⟨m', hm', rfl⟩ := List.mem_map.mp hm
    have := order.mem_iff.mp hm'
    rw [Issued.members, left_out] at this
    rcases List.mem_cons.mp this with rfl | this
    · simp
    · rw [List.mem_singleton.mp this]
      simp
  · have claim : i.roleClaim = .null := by rw [roleClaim, hr]
    rw [claim]
    exact present .null (by rw [roleMembers, hr])
  · have claim : i.roleClaim = .text text := by rw [roleClaim, hr]
    rw [claim]
    exact present (.text text) (by rw [roleMembers, hr])

/-- In whatever order they come, the members say the issuer's claims. -/
theorem said_record {i : Issued} {members : List (String × Json)} (order : members.Perm i.members) :
    Claims.Said (.record members) i.claims := by
  have nodup := (order.map (·.1)).nodup_iff.mpr (nodup_names i)
  refine .object (fun m hm => ?_) (given_of_mem nodup ?_) (given_of_mem nodup ?_) (given_role order)
  · obtain ⟨m, -, rfl⟩ := List.mem_map.mp hm
    rfl
  · exact order.mem_iff.mpr (by simp [Issued.members, claims])
  · exact order.mem_iff.mpr (by simp [Issued.members, claims])

theorem writable_of_mem {i : Issued} {m : String × Json} (h : m ∈ i.members) : m.2.Writable := by
  rcases List.mem_cons.mp h with rfl | h
  · show i.subClaim.Writable
    unfold subClaim
    split
    · exact Json.writable_text _
    · exact Json.writable_int _
  rcases List.mem_cons.mp h with rfl | h
  · exact Json.writable_int i.exp
  · unfold roleMembers at h
    split at h
    · cases h
    · rw [List.mem_singleton.mp h]
      exact trivial
    · rw [List.mem_singleton.mp h]
      exact Json.writable_text _

theorem writable_record {i : Issued} {members : List (String × Json)}
    (order : members.Perm i.members) : (Json.record members).Writable :=
  Json.writable_record fun _ hm => writable_of_mem (order.mem_iff.mp hm)

theorem kept_iff (i : Issued) : i.claims.Kept ↔ i.Carried := by
  have sub : Claims.Fits i.subClaim := by
    unfold subClaim
    split
    · exact Claims.fits_text _
    · rw [Claims.fits_int_iff, Numeral.toNumber?_ofInt64]
      rfl
  have role : Claims.Fits i.roleClaim := by
    unfold roleClaim
    split
    · exact Claims.fits_text _
    · exact Claims.fits_null
  constructor
  · intro h
    exact (Claims.fits_int_iff i.exp).mp h.exp
  · intro h
    exact ⟨sub, (Claims.fits_int_iff i.exp).mpr h, role⟩

theorem subject_claims (i : Issued) : i.claims.subject = .ok i.id := by
  have number : ∀ c : Claims, c.sub = .int i.id.toInt → c.subject = .ok i.id := by
    intro c h
    rw [Claims.subject, h, Json.int]
    simp only [Numeral.toNumber?_ofInt64, int64?_eq_some.mpr rfl]
  have text : ∀ c : Claims, c.sub = .text (toString i.id.toInt) → c.subject = .ok i.id := by
    intro c h
    rw [Claims.subject, h, Json.text]
    simp only [Text.readInt64_trim_toString]
  by_cases ht : i.idAsText = true
  · exact text i.claims (if_pos ht)
  · exact number i.claims (if_neg ht)

theorem roleOf_claims (i : Issued) : i.claims.roleOf = i.identity.role := by
  rw [Claims.roleOf, claims, roleClaim, identity]
  cases i.role with
  | leftOut => rfl
  | null => rfl
  | label text => simp only [Json.text, String.isEmpty_iff]

end Issued

/-! ## Top theorem -/

/-- What is read off a credential is read off its second segment. -/
theorem identify_of_secondSegment {c c' : String} {P : List Char} (h : SecondSegment c P)
    (h' : SecondSegment c' P) : identify c = identify c' := by
  have same : Claims.parse c = Claims.parse c' := by
    rw [Claims.parse, Claims.parse, payload?_eq_some_iff.mpr h, payload?_eq_some_iff.mpr h']
  rw [identify, identify, same]

/-- **Round trip.**  Neither the alphabet nor the padding, neither the header nor what follows the
payload, nor the order of the members makes a difference; every expiry of 64 bits is carried, and
one that is too large for a double is refused.  Two credentials with the same second segment speak
for the same one, whatever that segment is. -/
theorem identify_issued (i : Issued) {members : List (String × Json)}
    (order : members.Perm i.members) {header trailing : String} (no_dot : '.' ∉ header.toList)
    (trails : Trails trailing) (a : Base64.Alphabet) (padded : Bool) :
    let c := credentialWith header trailing a padded (.record members)
    (Int64.minValue.toInt ≤ i.exp → i.exp < UInt64.size → i.Carried) ∧
    (i.Carried → identify c = .ok i.identity) ∧
    (¬i.Carried → identify c = .error .json) ∧
    ∀ c₁ c₂ P, SecondSegment c₁ P → SecondSegment c₂ P → identify c₁ = identify c₂ := by
  intro c
  have said := Issued.said_record order
  have writable := Issued.writable_record order
  refine ⟨Issued.carried_of_range, fun carried => ?_, fun refused => ?_, fun _ _ _ h h' =>
    identify_of_secondSegment h h'⟩
  · have parsed : Claims.parse c = .ok i.claims :=
      (Claims.parse_credentialWith no_dot trails a padded writable).mpr
        ⟨said, (Issued.kept_iff i).mpr carried⟩
    exact identify_eq_ok_iff.mpr
      ⟨i.claims, parsed, Issued.subject_claims i, Issued.roleOf_claims i⟩
  · have segment := secondSegment_credentialWith no_dot trails a padded (.record members)
    have parsed : Claims.parse c = .error .json := by
      rw [Claims.parse_eq_json_iff segment (Base64.decode?_encode a padded _)]
      intro claims h
      -- the payload says these claims and no others, so it is the expiry that does not fit
      obtain ⟨said', kept⟩ := (Claims.saidIn_toBytes writable).mp h
      rw [said'.unique said] at kept
      exact refused ((Issued.kept_iff i).mp kept)
    rw [identify, parsed]
    rfl

/-- An administrator's credential with the id as a text and the role in front, in the standard
alphabet and padded. -/
theorem identify_issued_admin :
    identify (credentialWith "header" ".signature" .standard true
      (.record [("role", .text "Admin"), ("exp", .int 9999999999), ("sub", .text "-3")])) =
        .ok ⟨-3, some .admin⟩ := by
  let i : Issued := ⟨-3, true, 9999999999, .label "Admin"⟩
  have order : List.Perm [("role", .text "Admin"), ("exp", .int 9999999999), ("sub", .text "-3")]
      i.members := List.reverse_perm i.members
  have no_dot : '.' ∉ "header".toList := by decide
  have trails : Trails ".signature" := .inr ⟨"signature", by decide⟩
  obtain ⟨carried, ok, -⟩ := identify_issued i order no_dot trails .standard true
  exact ok (carried (by decide) (by decide))

end CarCatalog
