import CarCatalog.Credential
import CarCatalog.Json.Writer

/-!
# What is read off a credential

    identify c = .ok who ↔ who's id and role are the subject and role of c's claims
                                                            (identify_eq_ok_iff)
    identify c = .ok who → (who.role = some r ↔ roleText? c = some r.label)   for a known role r
                                                            (role_eq_some_iff)
-/

namespace CarCatalog

/-- A credential with these claims in its payload. -/
def credentialOf (claims : Json) : String :=
  "header." ++ String.ofList (Base64.encode .urlSafe false claims.toBytes) ++ ".signature"

/-- A credential of user 3, an administrator, that expires in the year 2286. -/
def adminCredential : String :=
  credentialOf (.record [("sub", .int 3), ("exp", .int 9999999999), ("role", .text "Admin")])

/-- The role claim as it stands, when it is a text. -/
def roleText? (c : String) : Option String :=
  match Claims.parse c with
  | .ok claims => claims.role.text?
  | .error _ => none

/-- Whether a role is one that anything is granted to. -/
def Role.isKnown : Role → Bool
  | .unknown _ => false
  | _ => true

/-! ## Lemmas -/

theorem identify_eq_ok_iff {c : String} {who : Identity} :
    identify c = .ok who ↔
      ∃ claims, Claims.parse c = .ok claims ∧ claims.subject = .ok who.id ∧
        claims.roleOf = who.role := by
  unfold identify
  cases Claims.parse c with
  | error fault =>
    constructor
    · intro h
      cases h
    · rintro ⟨_, h, -⟩
      cases h
  | ok claims =>
    constructor
    · intro h
      cases hs : claims.subject with
      | error fault => simp only [bind, Except.bind, hs] at h; cases h
      | ok id =>
        simp only [bind, Except.bind, hs] at h
        cases h
        exact ⟨claims, rfl, hs, rfl⟩
    · rintro ⟨_, h, hs, hr⟩
      cases h
      simp only [bind, Except.bind, hs, hr]
      rfl

theorem identify_of_toOption {c : String} {who : Identity} (h : (identify c).toOption = some who) :
    identify c = .ok who := by
  cases hc : identify c with
  | ok other => rw [hc] at h; cases h; rfl
  | error fault => rw [hc] at h; cases h

theorem Role.ofLabel_eq_iff {r : Role} (known : r.isKnown) (label : String) :
    Role.ofLabel label = r ↔ label = r.label := by
  constructor
  · intro h
    rw [← h, Role.label_ofLabel]
  · rintro rfl
    cases r with
    | unknown _ => cases known
    | _ => rfl

theorem Role.label_isEmpty {r : Role} (known : r.isKnown) : r.label.isEmpty = false := by
  cases r with
  | unknown _ => cases known
  | _ => rfl

theorem Claims.roleOf_eq_some_iff {r : Role} (known : r.isKnown) (claims : Claims) :
    claims.roleOf = some r ↔ claims.role.text? = some r.label := by
  unfold Claims.roleOf
  split
  · next s hs =>
    rw [hs]
    show _ ↔ some s = some r.label
    split
    · next empty =>
      constructor
      · intro h
        cases h
      · intro h
        rw [Option.some.inj h, Role.label_isEmpty known] at empty
        cases empty
    · rw [Option.some.injEq, Option.some.injEq]
      exact Role.ofLabel_eq_iff known s
  · next other =>
    constructor
    · intro h
      cases h
    · intro h
      cases hj : claims.role with
      | string s => rw [hj] at h; cases h; exact absurd hj (other _)
      | _ => rw [hj] at h; cases h

/-- A known role is held by its exact label and by no other claim. -/
theorem role_eq_some_iff {c : String} {who : Identity} (h : identify c = .ok who) {r : Role}
    (known : r.isKnown) : who.role = some r ↔ roleText? c = some r.label := by
  obtain ⟨claims, parsed, -, role⟩ := identify_eq_ok_iff.mp h
  rw [← role, roleText?, parsed]
  exact Claims.roleOf_eq_some_iff known claims

end CarCatalog
