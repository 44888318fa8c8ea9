import CarCatalog.Gate
import CarCatalog.Proofs.Credential
import CarCatalog.Proofs.Session.Sound

/-!
# What a credential gives access to

A session is opened by a credential when it finds it in its slot or logs in with it.  Which gates
then allow is decided by the text of the credential's role claim alone; a text that is no known
label is no better or worse than no role.

    s.Opens c → s.isAuthenticated →
      (s.sectionGate .users = .allow ↔ roleText? c = some "Admin")    (gates_of_roleText, and so on)
    role.Unrecognised → part.permits role = part.permits none         (permits_of_unrecognised)
-/

namespace CarCatalog

/-- No known role, whatever the label. -/
def Unrecognised (role : Option Role) : Prop := ∀ r : Role, r.isKnown → role ≠ some r

/-! ## Unrecognised roles -/

theorem permits_of_unrecognised {role : Option Role} (h : Unrecognised role) (part : Section) :
    part.permits role = part.permits none := by
  have admin := h .admin rfl
  have carSpec := h .carSpec rfl
  have user := h .user rfl
  cases part <;> simp [Section.permits, admin, carSpec, user]

theorem menuOf_of_unrecognised {role : Option Role} (h : Unrecognised role) :
    menuOf role = menuOf none := by
  unfold menuOf
  split
  · exact absurd rfl (h .admin rfl)
  · exact absurd rfl (h .carSpec rfl)
  · rfl

theorem landingOf_of_unrecognised {role : Option Role} (h : Unrecognised role) :
    landingOf role = landingOf none := by
  unfold landingOf
  split
  · exact absurd rfl (h .admin rfl)
  · exact absurd rfl (h .carSpec rfl)
  · rfl

theorem canModify_of_unrecognised {who : Identity} (h : Unrecognised who.role) (author : Int64) :
    who.canModify author = (who.id == author) := by
  have admin := h .admin rfl
  simp [Identity.canModify, Identity.isAdmin, admin]

theorem unrecognised_of_roleText {c : String} {who : Identity} (hc : identify c = .ok who)
    (h : ∀ r : Role, r.isKnown → roleText? c ≠ some r.label) : Unrecognised who.role :=
  fun r known hr => h r known ((role_eq_some_iff hc known).mp hr)

namespace Session

/-! ## Sessions that a credential opened -/

/-- What a fresh session is after it found the credential in its slot, or logged in with it. -/
inductive Opens (c : String) : Session → Prop
  | bootstrap {σ : Type} (slot : Slot σ) (config : SessionConfig) (store : σ) (now : Int64)
    (holds : (slot.load store).1 = some c) :
    Opens c ((Owner.fresh config store).bootstrap slot now).session
  | login {σ : Type} (slot : Slot σ) (config : SessionConfig) (store : σ) :
    Opens c ((Owner.fresh config store).login slot c).2.session

theorem Opens.signedIn {c : String} {s : Session} (h : Opens c s) (signed : s.isAuthenticated) :
    ∃ who, identify c = .ok who ∧ s = ⟨some who, some c, false⟩ := by
  cases h with
  | bootstrap slot config store now holds =>
    rw [Owner.session_bootstrap_fresh, holds, restore] at signed ⊢
    split at signed
    · cases signed
    · next fresh =>
      rw [if_neg fresh]
      cases hc : identify c with
      | ok who => exact ⟨who, rfl, rfl⟩
      | error _ => rw [hc] at signed; cases signed
  | login slot config store =>
    rw [Owner.session_login] at signed ⊢
    cases hc : identify c with
    | ok who => rw [login_of_ok hc]; exact ⟨who, rfl, rfl⟩
    | error _ => rw [login_of_error hc] at signed; cases signed

theorem sectionGate_of_not_authenticated {s : Session} (h : s.isAuthenticated = false)
    (part : Section) : s.sectionGate part ≠ .allow := by
  unfold sectionGate layoutGate
  rw [h]
  split
  · next hl => intro ha; cases ha
  · intro ha; cases ha
  · next hr => split at hr <;> cases hr

theorem sectionGate_eq_allow_iff (who : Identity) (c : String) (part : Section) :
    (⟨some who, some c, false⟩ : Session).sectionGate part = .allow ↔ part.permits who.role := by
  show (if part.permits who.role then ViewGate.allow else .redirect _) = .allow ↔ _
  split
  · next h => simp [h]
  · next h => simp [h]

/-- Two signed-in sessions whose roles are not recognised pass the same gates. -/
theorem gates_of_unrecognised {who who' : Identity} (h : Unrecognised who.role)
    (h' : Unrecognised who'.role) (c c' : String) :
    let s : Session := ⟨some who, some c, false⟩
    let s' : Session := ⟨some who', some c', false⟩
    s.layoutGate = s'.layoutGate ∧ (∀ part, s.sectionGate part = s'.sectionGate part) ∧
      s.indexGate = s'.indexGate := by
  refine ⟨?_, fun part => ?_, ?_⟩
  · show LayoutGate.render (menuOf who.role) = .render (menuOf who'.role)
    rw [menuOf_of_unrecognised h, menuOf_of_unrecognised h']
  · show (if part.permits who.role then ViewGate.allow else .redirect (landingOf who.role).path) =
      if part.permits who'.role then .allow else .redirect (landingOf who'.role).path
    rw [permits_of_unrecognised h, permits_of_unrecognised h', landingOf_of_unrecognised h,
      landingOf_of_unrecognised h']
  · show ViewGate.redirect (landingOf who.role).path = .redirect (landingOf who'.role).path
    rw [landingOf_of_unrecognised h, landingOf_of_unrecognised h']

/-! ## Top theorem -/

/-- **Role labels.**  A session that a credential opened allows nothing unless it is signed in, and
then what the exact text of the role claim is permitted.  Two credentials of one user whose claims
are no known label open sessions that no gate and no record tells apart. -/
theorem gates_of_roleText :
    (∀ (c : String) (s : Session), Opens c s →
      (s.isAuthenticated = false → ∀ part, s.sectionGate part ≠ .allow) ∧
      (s.isAuthenticated = true →
        (s.sectionGate .users = .allow ↔ roleText? c = some "Admin") ∧
        (s.sectionGate .carSpecs = .allow ↔
          roleText? c = some "Admin" ∨ roleText? c = some "CarSpec") ∧
        (s.sectionGate .myCars = .allow ↔
          roleText? c = some "Admin" ∨ roleText? c = some "User") ∧
        s.sectionGate .catalog = .allow)) ∧
    ∀ (c c' : String) (s s' : Session) (who who' : Identity), Opens c s → Opens c' s' →
      s.isAuthenticated = true → s'.isAuthenticated = true →
      identify c = .ok who → identify c' = .ok who' → who.id = who'.id →
      (∀ text ∈ ["Admin", "CarSpec", "User"], roleText? c ≠ some text ∧ roleText? c' ≠ some text) →
      s.layoutGate = s'.layoutGate ∧ (∀ part, s.sectionGate part = s'.sectionGate part) ∧
        s.indexGate = s'.indexGate ∧ ∀ author, who.canModify author = who'.canModify author := by
  refine ⟨fun c s opens => ⟨sectionGate_of_not_authenticated, fun signed => ?_⟩, ?_⟩
  · obtain ⟨who, hc, rfl⟩ := opens.signedIn signed
    have admin := role_eq_some_iff hc (r := .admin) rfl
    have carSpec := role_eq_some_iff hc (r := .carSpec) rfl
    have user := role_eq_some_iff hc (r := .user) rfl
    simp only [sectionGate_eq_allow_iff, Section.permits, Bool.or_eq_true, beq_iff_eq]
    exact ⟨admin, or_congr admin carSpec, or_congr admin user, trivial⟩
  · intro c c' s s' who who' opens opens' signed signed' hc hc' id other
    obtain ⟨_, hw, rfl⟩ := opens.signedIn signed
    obtain ⟨_, hw', rfl⟩ := opens'.signedIn signed'
    obtain rfl := Except.ok.inj (hc.symm.trans hw)
    obtain rfl := Except.ok.inj (hc'.symm.trans hw')
    have known : ∀ r : Role, r.isKnown → r.label ∈ ["Admin", "CarSpec", "User"] := by
      intro r hr
      cases r with
      | unknown _ => cases hr
      | _ => decide
    have h := unrecognised_of_roleText hc fun r hr => (other _ (known r hr)).1
    have h' := unrecognised_of_roleText hc' fun r hr => (other _ (known r hr)).2
    obtain ⟨layout, parts, index⟩ := gates_of_unrecognised h h' c c'
    refine ⟨layout, parts, index, fun author => ?_⟩
    rw [canModify_of_unrecognised h, canModify_of_unrecognised h', id]

/-- User 3 with the label of an administrator in the wrong case, and without a role. -/
theorem gates_of_roleText_lowercase :
    let labelled := credentialOf (.record [("sub", .int 3), ("role", .text "admin")])
    let plain := credentialOf (.record [("sub", .int 3)])
    let heap := Memory.Heap.empty.create tokenKey []
    let s := ((Owner.fresh .default heap).login (.memory 0) labelled).2.session
    let s' := ((Owner.fresh .default heap).login (.memory 0) plain).2.session
    s.isAuthenticated = true ∧ s.layoutGate = s'.layoutGate ∧ s.sectionGate .users ≠ .allow := by
  intro labelled plain heap s s'
  have signed : s.isAuthenticated = true := by unfold s labelled heap; decide +kernel
  have signed' : s'.isAuthenticated = true := by unfold s' plain heap; decide +kernel
  have opens : Opens labelled s := .login (.memory 0) .default heap
  have opens' : Opens plain s' := .login (.memory 0) .default heap
  have who : identify labelled = .ok ⟨3, some (.unknown "admin")⟩ :=
    identify_of_toOption (by unfold labelled; decide +kernel)
  have who' : identify plain = .ok ⟨3, none⟩ :=
    identify_of_toOption (by unfold plain; decide +kernel)
  have other : ∀ text ∈ ["Admin", "CarSpec", "User"],
      roleText? labelled ≠ some text ∧ roleText? plain ≠ some text := by
    unfold labelled plain
    decide +kernel
  obtain ⟨one, two⟩ := gates_of_roleText
  refine ⟨signed, (two _ _ _ _ _ _ opens opens' signed signed' who who' rfl other).1, ?_⟩
  intro allowed
  exact (other "Admin" (by decide)).1 (((one _ _ opens).2 signed).1.mp allowed)

end Session

end CarCatalog
